/-
# Multipage.Path -- the names on a path, and the extension of the last

A path is names between slashes.  Empty names and single points stand for nothing, so a slash
or `/.` at the end is passed over.  The extension follows the last point of the last name; a
name that starts with its only point has none, and neither has `..`.
-/
import Multipage.Text.Basic

namespace Multipage

set_option autoImplicit false

namespace Path

/-- The names on a path: empty ones and `.` stand for nothing. -/
def names (path : Text) : List Text :=
  (path.splitOn '/').filter fun name => !name.isEmpty && name != ['.']

/-- The name that a path ends in, unless it leads upwards. -/
def fileName? (path : Text) : Option Text :=
  (names path).getLast?.filter fun name => name != "..".toList

/-- What follows the last point of the name, unless that point is the first character. -/
def extension? (path : Text) : Option Text :=
  (fileName? path).bind fun name =>
    (Text.splitLast '.' name).bind fun (stem, extension) =>
      if stem.isEmpty then none else some extension

end Path

end Multipage
