/-
# Multipage.File.Tree -- a file tree as a value

A tree is a list of files and directories with the names that lead to them from the root; a
directory that something lies in need not be listed.

A path is walked name by name, and every name, `.` and `..` and the empty one among them, needs
a directory to stand in: `a/..` leads nowhere when `a` is a file or is not there, and a slash
after the name of a file is a fault.  There are no links, and a path may be of any length.

* `entry?` -- what lies at a place;
* `walk` -- the place that the names of a path lead to;
* `view` -- the tree seen from a working directory.
-/
import Multipage.File.View

namespace Multipage

set_option autoImplicit false

/-- What a place of a tree holds. -/
inductive FileEntry where
  | directory
  | file (content : Bytes)
  deriving DecidableEq

/-- Files and directories with the names that lead to them. -/
structure FileTree where
  entries : List (List Text × FileEntry)

namespace FileTree

/-- The longest name that an entry can have, in bytes. -/
def maxNameSize : Nat := 255

/-- What lies at a place: the root, what is listed there, or a directory that something listed
lies in. -/
def entry? (tree : FileTree) (place : List Text) : Option FileEntry :=
  match tree.entries.lookup place with
  | some entry => some entry
  | none =>
      if place.isEmpty || tree.entries.any fun (other, _) => place.isPrefixOf other then
        some .directory
      else none

/-- The place that one name leads to from a place. -/
def step (tree : FileTree) (place : List Text) (name : Text) : Except FileFault (List Text) :=
  match tree.entry? place with
  | none => .error .notFound
  | some (.file _) => .error .notADirectory
  | some .directory =>
      if name.isEmpty || name == ['.'] then .ok place
      else if name == ['.', '.'] then .ok place.dropLast
      else if Text.byteSize name > maxNameSize then .error .nameTooLong
      else .ok (place ++ [name])

/-- The place that names lead to from a place. -/
def walk (tree : FileTree) (place : List Text) : List Text → Except FileFault (List Text)
  | [] => .ok place
  | name :: rest =>
      match tree.step place name with
      | .ok place => tree.walk place rest
      | .error fault => .error fault

/-- What a path leads to, seen from a working directory. -/
def find (tree : FileTree) (workingDirectory : List Text) (path : Text) :
    Except FileFault FileEntry :=
  if path.contains '\x00' then .error .nulInName
  else if path.isEmpty then .error .notFound
  else
    let start := if path.head? = some '/' then [] else workingDirectory
    match tree.walk start (path.splitOn '/') with
    | .error fault => .error fault
    | .ok place =>
        match tree.entry? place with
        | some entry => .ok entry
        | none => .error .notFound

/-- The content of the file that a path leads to. -/
def read (tree : FileTree) (workingDirectory : List Text) (path : Text) :
    Except FileFault Bytes :=
  match tree.find workingDirectory path with
  | .ok (.file content) => .ok content
  | .ok .directory => .error .isADirectory
  | .error fault => .error fault

/-- The tree seen from a working directory. -/
def view (tree : FileTree) (workingDirectory : List Text) : FileView where
  read := tree.read workingDirectory
  holds := fun path => (tree.find workingDirectory path).isOk
  workingDirectory

end FileTree
end Multipage
