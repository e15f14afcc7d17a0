/-
# Multipage.Main -- the command line

Looks for the files that the arguments ask for and reads them, runs the program on what it has
seen, and writes the log to standard output and all other lines to standard error.
-/
import Multipage.Command.Basic
import Multipage.Media.Extension
import Multipage.Template.Renderer

namespace Multipage.Command

set_option autoImplicit false

/-- What the command is put together from. -/
def host : Host where
  reader := Overrides.ofToml?
  registry := .builtins templateFactory
  known := Extension.mediaType?

/-- The fault that a failed attempt to read stands for. -/
def faultOf : IO.Error → FileFault
  | .noFileOrDirectory _ _ _ => .notFound
  | .inappropriateType _ 20 _ => .notADirectory
  | .inappropriateType _ _ _ => .isADirectory
  | error => .refused (toString error).toList

/-- Read the file at a path. -/
def readFile (path : Text) : IO (Except FileFault Bytes) := do
  try
    let content ← IO.FS.readBinFile (String.ofList path)
    return .ok content.toList
  catch error => return .error (faultOf error)

/-- Whether a path leads to a file or a directory. -/
def isThere (path : Text) : IO Bool := do
  try
    let _ ← IO.FS.realPath (String.ofList path)
    return true
  catch _ => return false

/-- Look at some paths, and see no others. -/
def viewOf (workingDirectory : List Text) (paths : List Text) : IO FileView := do
  let contents ← paths.mapM fun path => do return (path, ← readFile path)
  let present ← paths.filterM isThere
  return {
    read := fun path => (contents.lookup path).getD (.error .notFound)
    holds := present.contains
    workingDirectory }

/-- Run the program on arguments, and give its exit code. -/
def program (arguments : List Text) : IO Nat := do
  let workingDirectory := Path.names (toString (← IO.currentDir)).toList
  let paths :=
    match Invocation.ofArguments arguments with
    | .ok invocation => invocation.paths workingDirectory
    | .error _ => []
  let view ← viewOf workingDirectory paths
  let environment : Environment :=
    { defaultRenderer := (← IO.getEnv "SP_DEFAULT_RENDERER").map String.toList
      log := (← IO.getEnv "RUST_LOG").map String.toList }
  let outcome := run host view environment arguments
  for line in outcome.log do
    IO.println (String.ofList line)
  for line in outcome.lines do
    IO.eprintln (String.ofList line)
  return outcome.exitCode

end Multipage.Command

def main (arguments : List String) : IO UInt32 := do
  let exitCode ← Multipage.Command.program (arguments.map String.toList)
  return exitCode.toUInt32
