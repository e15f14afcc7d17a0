/-
# Multipage.Http.Query -- the pairs of a form-encoded query

A query is pairs joined by `&`; an empty piece is no pair.  The first `=` of a piece ends the
name.  Decoding turns a plus into a space first and then undoes the percent escapes, so an
escaped plus stays a plus; a percent sign without two hexadecimal digits stands for itself.
-/
import Multipage.Text.Utf8

namespace Multipage.Query

set_option autoImplicit false

/-- The byte that two hexadecimal digits stand for. -/
def escaped? (high low : UInt8) : Option UInt8 :=
  (Text.hexNumber? [Char.ofNat high.toNat, Char.ofNat low.toNat]).map UInt8.ofNat

/-- Undo the percent escapes. -/
def unescape : Bytes → Bytes
  | 0x25 :: high :: low :: rest =>
      match escaped? high low with
      | some b => b :: unescape rest
      | none => 0x25 :: unescape (high :: low :: rest)
  | b :: rest => b :: unescape rest
  | [] => []

/-- The text that a name or a value stands for. -/
def decode (t : Text) : Text :=
  Utf8.decodeLossy (unescape (Utf8.encode (t.map fun c => if c = '+' then ' ' else c)))

/-- Name and value of one piece. -/
def pair (piece : Text) : Text × Text :=
  let (name, value) := (Text.splitOnce '=' piece).getD (piece, [])
  (decode name, decode value)

/-- The pairs of a query, in order. -/
def pairs (query : Text) : List (Text × Text) :=
  ((query.splitOn '&').filter fun piece => !piece.isEmpty).map pair

/-- The value of the first pair of that name. -/
def get? (query : Text) (name : Text) : Option Text := (pairs query).lookup name

end Multipage.Query
