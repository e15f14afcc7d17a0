/-
# Multipage.Text.Quoted -- text between double quotes

In messages and events a text that may hold anything stands between double quotes.  The quote,
the backslash, the tab, the line ends and the NUL have an escape of one letter, every other
character that is not shown has its code point in braces; the rest stands for itself.
-/
import Multipage.Text.Printable

namespace Multipage.Text

set_option autoImplicit false

/-- A code point in hexadecimal digits between braces. -/
def codePointEscape (c : Char) : Text :=
  "\\u\x7b" ++ Nat.toDigits 16 c.toNat ++ "\x7d"

/-- One character between quotes. -/
def quoteChar (c : Char) : Text :=
  if c = '"' then "\\\""
  else if c = '\\' then "\\\\"
  else if c = '\n' then "\\n"
  else if c = '\r' then "\\r"
  else if c = '\t' then "\\t"
  else if c.toNat = 0 then "\\0"
  else if isShown c then [c]
  else codePointEscape c

/-- A text between quotes. -/
def quoted (t : Text) : Text := ['"'] ++ t.flatMap quoteChar ++ ['"']

/-- A list of texts between quotes. -/
def quotedList (ts : List Text) : Text := ['['] ++ join ", " (ts.map quoted) ++ [']']

/-- A text that may be missing. -/
def quotedOption : Option Text → Text
  | none => "None"
  | some t => "Some(" ++ quoted t ++ ")"

end Multipage.Text
