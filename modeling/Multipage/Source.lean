/-
# Multipage.Source -- a source file as its pages

Pages are separated by the form feed.  A file with `n` form feeds has `n + 1` pages, so the
pages joined by form feeds are the file again; the empty file has one empty page.

Content is decoded here and is text everywhere else.  When it does not decode, the error names
the page that holds the first fault.
-/
import Multipage.File.View
import Multipage.Text.Utf8

namespace Multipage

set_option autoImplicit false

/-- The character between two pages. -/
def pageBreak : Char := '\x0c'

/-- Why a source has no pages. -/
inductive SourceError where
  | unreadable (path : Text) (fault : FileFault)
  | encoding (path : Text) (page : Nat)
  deriving DecidableEq

def SourceError.message : SourceError → Text
  | .unreadable path fault => "I/O error reading " ++ path ++ ": " ++ fault.message
  | .encoding path page =>
      path ++ " is not valid UTF-8 (page " ++ Text.ofNat page ++ ")"

/-- A source file: where it is, and its pages in order. -/
structure Source where
  path : Text
  pages : List Text
  deriving DecidableEq

namespace Source

/-- Decode a file and cut it into pages. -/
def ofBytes (path : Text) (raw : Bytes) : Except SourceError Source :=
  match Utf8.decodeUpToFault raw with
  | (text, []) => .ok ⟨path, text.splitOn pageBreak⟩
  | (text, _ :: _) => .error (.encoding path (text.count pageBreak))

/-- Decode pages one by one, counting from `page`. -/
def decodePages (path : Text) (page : Nat) : List Bytes → Except SourceError (List Text)
  | [] => .ok []
  | raw :: rest =>
      match Utf8.decode? raw with
      | none => .error (.encoding path page)
      | some text => (decodePages path (page + 1) rest).map (text :: ·)

/-- Decode pages that were cut before. -/
def ofRawPages (path : Text) (raw : List Bytes) : Except SourceError Source :=
  (decodePages path 0 raw).map fun pages => ⟨path, pages⟩

/-- The source at a path. -/
def read (view : FileView) (path : Text) : Except SourceError Source :=
  match view.read path with
  | .error fault => .error (.unreadable path fault)
  | .ok raw => ofBytes path raw

end Source
end Multipage
