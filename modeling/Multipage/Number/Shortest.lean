/-
# Multipage.Number.Shortest -- the fewest digits that read back

The text of a 64-bit number has the fewest decimal digits whose value still rounds to that
number; of two such texts with equally many digits it is the nearer one.  All arithmetic is
exact: the reals that round to the number are an interval around it, and for 1, 2, ... 17
digits the two decimals next to the number are tried against the interval.

`FloatLayout` holds what a format decides: which exponents are written with a plain point.
-/
import Multipage.Number.Binary

namespace Multipage

set_option autoImplicit false

/-- Significant digits and the place of the point: `0.d₁d₂… * 10 ^ point`. -/
structure DecimalDigits where
  digits : Text
  point : Int
  deriving DecidableEq, Repr

namespace Shortest

/-- Quarter units per one: the interval's ends are whole numbers of quarter units. -/
def one : Nat := Nat.pow 2 (BinaryFormat.double.scale + 2)

/-- The interval of reals that round to a number of `units`, in quarter units.  The gap
below a power of two is half the gap above it. -/
def interval (units : Nat) : Nat × Nat :=
  let spare := Binary.spareBits .double units
  let gap := Nat.pow 2 spare
  let narrow := spare ≠ 0 ∧ units = Nat.pow 2 (spare + BinaryFormat.double.precision - 1)
  (4 * units - (if narrow then gap else 2 * gap), 4 * units + 2 * gap)

/-- Whether the ends of the interval round to the number: a tie goes to the even one. -/
def endsIncluded (units : Nat) : Bool :=
  units / Nat.pow 2 (Binary.spareBits .double units) % 2 == 0

/-- The exponent `e` with `10 ^ (e - 1) ≤ number < 10 ^ e`. -/
def magnitude (units : Nat) : Int :=
  let whole := units / Nat.pow 2 BinaryFormat.double.scale
  if whole ≠ 0 then (Text.ofNat whole).length
  else
    match (List.range 330).find? fun k =>
        Nat.pow 2 BinaryFormat.double.scale ≤ units * Nat.pow 10 k with
    | some k => 1 - k
    | none => 0

/-- The decimal with `count` digits nearest to the number among those in its interval. -/
def nearest? (units count : Nat) : Option DecimalDigits :=
  let point := magnitude units
  let shift := (count : Int) - point
  let up := Nat.pow 10 shift.toNat
  let unit := one * Nat.pow 10 (-shift).toNat
  let value := 4 * units * up
  let (low, high) := interval units
  let inside := fun (candidate : Nat) =>
    let c := candidate * unit
    if endsIncluded units then low * up ≤ c && c ≤ high * up else low * up < c && c < high * up
  let below := value / unit
  let chosen :=
    match inside below, inside (below + 1) with
    | true, true => some (roundHalfEven value unit)
    | true, false => some below
    | false, true => some (below + 1)
    | false, false => none
  chosen.map fun c =>
    let digits := Text.ofNat c
    ⟨Text.trimEndBy (· = '0') digits, point + digits.length - count⟩

/-- The digits of a positive number of `units`. -/
def digits (units : Nat) : DecimalDigits :=
  ((List.range 17).findSome? fun n => nearest? units (n + 1)).getD ⟨['0'], 1⟩

end Shortest

/-- Which decimal exponents a format writes with a plain point, no bound being no limit, and
whether an exponent that is not negative has its sign written. -/
structure FloatLayout where
  lowest : Option Int
  highest : Option Int
  writesPlus : Bool

namespace FloatLayout

/-- The decimal exponent of the first digit is in the plain range. -/
def isPlain (layout : FloatLayout) (exponent : Int) : Bool :=
  layout.lowest.all (· ≤ exponent) && layout.highest.all (exponent ≤ ·)

/-- Digits with a point among them, and at least one digit on either side of it. -/
def plain (d : DecimalDigits) : Text :=
  if d.point ≤ 0 then "0." ++ List.replicate d.point.natAbs '0' ++ d.digits
  else
    let width := d.point.toNat
    let padded := d.digits ++ List.replicate (width - d.digits.length) '0'
    let fraction := padded.drop width
    padded.take width ++ ['.'] ++ (if fraction.isEmpty then ['0'] else fraction)

/-- One digit before the point, and the exponent. -/
def scientific (layout : FloatLayout) (d : DecimalDigits) : Text :=
  let exponent := d.point - 1
  let rest := d.digits.drop 1
  let sign := if exponent < 0 then ['-'] else if layout.writesPlus then ['+'] else []
  d.digits.take 1 ++ (if rest.isEmpty then [] else '.' :: rest) ++ ['e'] ++ sign ++
    Text.ofNat exponent.natAbs

/-- The text of a finite number. -/
def finite (layout : FloatLayout) (negative : Bool) (units : Nat) : Text :=
  let magnitude :=
    if units = 0 then "0.0".toList
    else
      let d := Shortest.digits units
      if layout.isPlain (d.point - 1) then plain d else layout.scientific d
  if negative then '-' :: magnitude else magnitude

end FloatLayout
end Multipage
