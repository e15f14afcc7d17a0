/-
# Multipage.Media.Quality -- the weight of a media range

A quality is a 32-bit floating number between 0 and 1, held as its units, so that qualities
are totally ordered and never out of range.  A text that is no number, or a number outside the
range, is no quality.  Both zeros are the quality 0.
-/
import Multipage.Number.Decimal

namespace Multipage

set_option autoImplicit false

/-- A number from 0 to 1 in units of the 32-bit format. -/
structure Quality where
  units : Nat
  le_one : units ≤ Nat.pow 2 BinaryFormat.single.scale
  deriving DecidableEq

namespace Quality

def one : Quality := ⟨Nat.pow 2 BinaryFormat.single.scale, Nat.le_refl _⟩

/-- The quality that a number is. -/
def ofBinary? : Binary → Option Quality
  | .finite negative units =>
      if h : units ≤ Nat.pow 2 BinaryFormat.single.scale then
        if negative = true ∧ units ≠ 0 then none else some ⟨units, h⟩
      else none
  | _ => none

/-- The quality that a text spells. -/
def ofText? (t : Text) : Option Quality := (Binary.ofText? .single t).bind ofBinary?

/-- A type with quality 0 is refused. -/
def isZero (q : Quality) : Bool := q.units == 0

end Quality
end Multipage
