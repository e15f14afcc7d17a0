/-
# Multipage.File.View -- what a run sees of the file system

Files are read by path, and the same path always reads the same: a run sees one state of the
file system.  A path that starts with a slash starts at the root, any other at the working
directory.

* `read` -- the content at a path, or why there is none;
* `holds` -- whether a path leads to something, be it a file or a directory.  The system is asked
  for this by itself, and reading has no part in it;
* `nearest?` -- the entry of a name in the working directory or else in the nearest directory
  above it that has one.
-/
import Multipage.File.Fault

namespace Multipage

set_option autoImplicit false

structure FileView where
  /-- The content at a path, or why there is none. -/
  read : Text → Except FileFault Bytes
  /-- Whether a path leads to a file or a directory. -/
  holds : Text → Bool
  /-- The names that lead from the root to the working directory. -/
  workingDirectory : List Text

namespace FileView

/-- The names that lead from the root to `place`, as a path. -/
def absolutePath (place : List Text) : Text := '/' :: Text.join ['/'] place

/-- A place and the places above it, nearest first, down to the root. -/
def upwards (place : List Text) : List (List Text) :=
  (List.range (place.length + 1)).map fun above => place.take (place.length - above)

/-- The paths of the entries `name` in a place and in the places above it, nearest first. -/
def candidates (place : List Text) (name : Text) : List Text :=
  (upwards place).map fun above => absolutePath (above ++ [name])

/-- The path of the entry `name` in the nearest directory that has one. -/
def nearest? (view : FileView) (name : Text) : Option Text :=
  (candidates view.workingDirectory name).find? view.holds

end FileView
end Multipage
