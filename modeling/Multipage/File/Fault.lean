/-
# Multipage.File.Fault -- why a file cannot be read

Each fault has the wording and the number that the operating system gives it, except for the
last three: a name that no file can have, content that is not text, and a fault that only the
system can describe.
-/
import Multipage.Text.Basic

namespace Multipage

set_option autoImplicit false

inductive FileFault where
  | notFound
  | notADirectory
  | isADirectory
  | nameTooLong
  /-- The name holds a NUL, which no file name can. -/
  | nulInName
  /-- The content was asked for as text and is not. -/
  | notText
  /-- The system refuses for a reason of its own. -/
  | refused (description : Text)
  deriving DecidableEq

namespace FileFault

def message : FileFault → Text
  | .notFound => "No such file or directory (os error 2)"
  | .notADirectory => "Not a directory (os error 20)"
  | .isADirectory => "Is a directory (os error 21)"
  | .nameTooLong => "File name too long (os error 36)"
  | .nulInName => "file name contained an unexpected NUL byte"
  | .notText => "stream did not contain valid UTF-8"
  | .refused description => description

end FileFault
end Multipage
