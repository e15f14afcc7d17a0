/-
# Multipage.Command.Check -- compiling files to see whether they can be

Every file is compiled by itself, so its outcome does not depend on the other files.  The task
fails when one of the files does.
-/
import Multipage.Command.Compile
import Multipage.Command.Report

namespace Multipage.Command

set_option autoImplicit false

/-- What became of a file: its kind and its media types, or an error. -/
abbrev CheckOutcome := Except FileError (Kind × List Text)

/-- Compile the file at a path and say what became of it. -/
def Workshop.checkFile (workshop : Workshop) (path : Text) : CheckOutcome :=
  (workshop.compile path).map fun resource => (resource.kind, resource.availableTypes)

/-- The lines on a file. -/
def CheckOutcome.lines (path : Text) : CheckOutcome → List Text
  | .ok (kind, mediaTypes) =>
      [path ++ ": " ++ kind.name ++ " resource",
        "  media types: " ++ Text.join ", ".toList mediaTypes]
  | .error e => [path ++ ": " ++ e.label ++ ": " ++ e.message]

/-- Whether a file failed. -/
def CheckOutcome.failed : CheckOutcome → Bool
  | .ok _ => false
  | .error _ => true

/-- What became of each file, in order. -/
def Workshop.checkFiles (workshop : Workshop) (files : List Text) : List (Text × CheckOutcome) :=
  files.map fun path => (path, workshop.checkFile path)

/-- Report on the outcomes for a list of files. -/
def reportOutcomes (outcomes : List (Text × CheckOutcome)) : Report :=
  let lines := outcomes.flatMap fun (path, outcome) => outcome.lines path
  let failed := outcomes.countP fun (_, outcome) => outcome.failed
  if failed = 0 then { lines := lines ++ [Text.ofNat outcomes.length ++ " files compiled"] }
  else
    { lines
      failure := some (Text.ofNat failed ++ " of " ++ Text.ofNat outcomes.length ++
        " files failed to compile") }

/-- Compile files and report on each. -/
def Workshop.check (workshop : Workshop) (files : List Text) : Report :=
  (reportOutcomes (workshop.checkFiles files)).withEvents (files.flatMap workshop.compileEvents)

end Multipage.Command
