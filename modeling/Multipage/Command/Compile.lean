/-
# Multipage.Command.Compile -- compiling the file at a path

The path tells the kind of resource, then the file is read, then its source compiled; the first
of the three that fails is the error.
-/
import Multipage.Resource.Basic

namespace Multipage.Command

set_option autoImplicit false

/-- Why the file at a path gives no resource. -/
inductive FileError where
  /-- Files with that extension are served as they are. -/
  | notDynamic (path : Text)
  | source (error : SourceError)
  | compile (error : CompileError)
  deriving DecidableEq

namespace FileError

def message : FileError → Text
  | .notDynamic path =>
      path ++ " is not a dynamic resource (expected a .json file or no extension)"
  | .source error => error.message
  | .compile error => error.message

/-- A word or two on the kind of error. -/
def label : FileError → Text
  | .notDynamic _ => "error"
  | .source _ => "read error"
  | .compile error =>
      match error.category with
      | .structural => "syntax error"
      | .configuration => "configuration error"

end FileError

/-- What files are compiled with. -/
structure Workshop where
  view : FileView
  registry : Registry
  settings : Settings

namespace Workshop

/-- The kind of the file at a path, and its source. -/
def readSource (workshop : Workshop) (path : Text) : Except FileError (Kind × Source) :=
  match Kind.ofPath? path with
  | none => .error (.notDynamic path)
  | some kind =>
      match Source.read workshop.view path with
      | .error e => .error (.source e)
      | .ok source => .ok (kind, source)

/-- Compile the file at a path. -/
def compile (workshop : Workshop) (path : Text) : Except FileError Resource :=
  match workshop.readSource path with
  | .error e => .error e
  | .ok (kind, source) =>
      match Resource.compile kind source workshop.registry workshop.settings with
      | .error e => .error (.compile e)
      | .ok resource => .ok resource

/-- The events of `compile`. -/
def compileEvents (workshop : Workshop) (path : Text) : List Event :=
  match workshop.readSource path, workshop.compile path with
  | .ok (_, source), .ok resource => [resource.compiledEvent source.pages.length]
  | _, _ => []

end Workshop
end Multipage.Command
