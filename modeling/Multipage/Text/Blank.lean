/-
# Multipage.Text.Blank -- the characters that separate words

`isBlank` is the Unicode property White_Space: 25 characters, of which six are in ASCII.
`trim` drops them at both ends of a text and `words` cuts a text at runs of them.
-/
import Multipage.Text.Basic

namespace Multipage.Text

set_option autoImplicit false

/-- The ranges of White_Space, first and last code point of each. -/
def blankRanges : List (Nat × Nat) :=
  [(0x09, 0x0D), (0x20, 0x20), (0x85, 0x85), (0xA0, 0xA0), (0x1680, 0x1680),
   (0x2000, 0x200A), (0x2028, 0x2029), (0x202F, 0x202F), (0x205F, 0x205F), (0x3000, 0x3000)]

/-- Whether `c` has the property White_Space. -/
def isBlank (c : Char) : Bool :=
  blankRanges.any fun (first, last) => first ≤ c.toNat && c.toNat ≤ last

/-- `t` without the blanks at its ends. -/
def trim (t : Text) : Text := trimBy isBlank t

/-- The maximal runs of characters that are not blank, in order. -/
def words (t : Text) : List Text := (t.splitOnP isBlank).filter fun w => !w.isEmpty

end Multipage.Text
