/-
# Multipage.Json.Compact -- the text of a structured value

No blanks anywhere, members in their order.  A string escapes the quote, the backslash and
the controls below U+0020, five of them by a letter; all other characters stand for
themselves.  A floating number always shows a point or an exponent, so that it reads back as
one.
-/
import Multipage.Json.Value
import Multipage.Number.Shortest

namespace Multipage.Json

set_option autoImplicit false

/-- A floating number has a plain point from `0.00001` up to below `1e+16`. -/
def floatLayout : FloatLayout := ⟨some (-5), some 15, true⟩

/-- A hexadecimal digit. -/
def hexDigit (n : Nat) : Char := Nat.digitChar n

/-- A character inside quotes. -/
def escapeChar (c : Char) : Text :=
  if c = '"' then "\\\""
  else if c = '\\' then "\\\\"
  else if c = '\x08' then "\\b"
  else if c = '\x0c' then "\\f"
  else if c = '\n' then "\\n"
  else if c = '\r' then "\\r"
  else if c = '\t' then "\\t"
  else if c.toNat < 0x20 then "\\u00" ++ [hexDigit (c.toNat / 16), hexDigit (c.toNat % 16)]
  else [c]

/-- A string with its quotes. -/
def quote (t : Text) : Text := ['"'] ++ t.flatMap escapeChar ++ ['"']

/-- A floating number; one that is not finite has no text and is written as null. -/
def floatText : Binary → Text
  | .finite negative units => floatLayout.finite negative units
  | _ => "null"

mutual

/-- The text of a value. -/
def compact : Json → Text
  | .null => "null"
  | .bool true => "true"
  | .bool false => "false"
  | .integer i => Text.ofInt i
  | .float x => floatText x
  | .string t => quote t
  | .array items => ['['] ++ Text.join [','] (compactItems items) ++ [']']
  | .object members => ['\x7b'] ++ Text.join [','] (compactMembers members) ++ ['\x7d']

def compactItems : List Json → List Text
  | [] => []
  | item :: rest => compact item :: compactItems rest

def compactMembers : List (Text × Json) → List Text
  | [] => []
  | (name, value) :: rest => (quote name ++ [':'] ++ compact value) :: compactMembers rest

end

end Multipage.Json
