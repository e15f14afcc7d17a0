/-
# Multipage.Media.Type -- the texts that name a media type or a charset

A media type that may be declared or configured is two non-empty runs of letters, digits,
points, pluses and dashes with a slash between them.  A charset is a token.
-/
import Multipage.Http.Header

namespace Multipage

set_option autoImplicit false

/-- A character of either half of a media type. -/
def isMediaTypeChar (c : Char) : Bool := c.isAlphanum || c == '.' || c == '+' || c == '-'

/-- Whether `t` has the form `type/subtype`. -/
def isMediaType (t : Text) : Bool :=
  match Text.splitOnce '/' t with
  | some (type, subtype) => Text.isRunOf isMediaTypeChar type && Text.isRunOf isMediaTypeChar subtype
  | none => false

/-- Whether `t` can be sent as a charset. -/
def isCharset (t : Text) : Bool := Text.isRunOf isTokenChar t

end Multipage
