/-
# Multipage.Number.Decimal -- decimal text read as a binary number

The text of a number is an optional sign, then `inf`, `infinity` or `nan` in any case, or
decimal digits with at most one point among them and at least one digit beside it, and an
optional exponent.  `Decimal.ofText?` gives the digits as an exact value and
`Binary.ofText?` rounds it once, so no digit is lost before rounding.
-/
import Multipage.Number.Binary

namespace Multipage

set_option autoImplicit false

/-- The number `coefficient * 10 ^ exponent`. -/
structure Decimal where
  coefficient : Nat
  exponent : Int
  deriving DecidableEq, Repr

namespace Decimal

/-- The value of a run of digits. -/
def digitsValue (digits : Text) : Nat :=
  digits.foldl (fun value d => value * 10 + (d.toNat - '0'.toNat)) 0

/-- A sign and what follows it; no sign is plus. -/
def splitSign : Text → Bool × Text
  | '-' :: rest => (true, rest)
  | '+' :: rest => (false, rest)
  | rest => (false, rest)

/-- The number that an exponent part gives: nothing is zero, otherwise `e` or `E`, an
optional sign and at least one digit. -/
def exponentPart? : Text → Option Int
  | [] => some 0
  | mark :: rest =>
      let (negative, digits) := splitSign rest
      if (mark = 'e' ∨ mark = 'E') ∧ Text.isRunOf Char.isDigit digits = true then
        some (if negative then -(digitsValue digits : Int) else digitsValue digits)
      else none

/-- Read digits with an optional point and an optional exponent. -/
def ofText? (t : Text) : Option Decimal :=
  let whole := t.takeWhile Char.isDigit
  let afterWhole := t.dropWhile Char.isDigit
  let (fraction, afterFraction) :=
    match afterWhole with
    | '.' :: rest => (rest.takeWhile Char.isDigit, rest.dropWhile Char.isDigit)
    | _ => ([], afterWhole)
  if whole.isEmpty && fraction.isEmpty then none
  else
    (exponentPart? afterFraction).map fun exponent =>
      ⟨digitsValue (whole ++ fraction), exponent - fraction.length⟩

end Decimal

/-- Read a number and round it to `format`. -/
def Binary.ofText? (format : BinaryFormat) (t : Text) : Option Binary :=
  let (negative, magnitude) := Decimal.splitSign t
  let name := Text.asciiLower magnitude
  if name = "inf".toList ∨ name = "infinity".toList then some (.infinite negative)
  else if name = "nan".toList then some .nan
  else
    (Decimal.ofText? magnitude).map fun d =>
      Binary.ofDecimal format negative d.coefficient d.exponent

end Multipage
