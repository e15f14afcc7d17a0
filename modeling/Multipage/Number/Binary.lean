/-
# Multipage.Number.Binary -- binary floating numbers as exact data

A finite number of a binary format is a whole number of units, the unit being the least
positive number of that format (`2 ^ -149` for 32 bits, `2 ^ -1074` for 64 bits).  So order
and equality are those of the natural numbers, and every operation is an exact quotient
that is rounded once, by `round`: to the nearest number of the format, a tie to the one
with the even last bit, past the greatest number to infinity.
-/
import Multipage.Text.Basic

namespace Multipage

set_option autoImplicit false

/-- A binary format: how many significant bits a number has, the exponent of its unit below
zero, and the power of two, counted in units, that finite numbers stay below. -/
structure BinaryFormat where
  precision : Nat
  scale : Nat
  limit : Nat
  deriving DecidableEq

/-- The 32-bit format. -/
def BinaryFormat.single : BinaryFormat := ⟨24, 149, 277⟩

/-- The 64-bit format. -/
def BinaryFormat.double : BinaryFormat := ⟨53, 1074, 2098⟩

/-- A number of a binary format, in its units. -/
inductive Binary where
  | nan
  | infinite (negative : Bool)
  | finite (negative : Bool) (units : Nat)
  deriving DecidableEq, Repr

/-- The natural number nearest to `num / den`; of two equally near, the even one. -/
def roundHalfEven (num den : Nat) : Nat :=
  let below := num / den
  let twice := 2 * (num % den)
  if twice < den then below
  else if den < twice then below + 1
  else if below % 2 = 0 then below else below + 1

namespace Binary

/-- How many low bits a number of `units` cannot use. -/
def spareBits (format : BinaryFormat) (units : Nat) : Nat :=
  if units = 0 then 0 else Nat.log2 units + 1 - format.precision

/-- The number nearest to `num / den`, for a positive `den`. -/
def round (format : BinaryFormat) (negative : Bool) (num den : Nat) : Binary :=
  let scaled := num * Nat.pow 2 format.scale
  let spare := spareBits format (scaled / den)
  let units := roundHalfEven scaled (den * Nat.pow 2 spare) * Nat.pow 2 spare
  if units < Nat.pow 2 format.limit then .finite negative units else .infinite negative

/-- The number nearest to `coefficient * 10 ^ exponent`.  The two early answers are exact:
they keep huge exponents from being written out. -/
def ofDecimal (format : BinaryFormat) (negative : Bool) (coefficient : Nat) (exponent : Int) :
    Binary :=
  let magnitude : Int := (Text.ofNat coefficient).length + exponent
  if coefficient = 0 then .finite negative 0
  else if (format.limit : Int) - format.scale ≤ 3 * (magnitude - 1) then .infinite negative
  else if 3 * magnitude ≤ -(format.scale + 1 : Int) then .finite negative 0
  else if 0 ≤ exponent then round format negative (coefficient * Nat.pow 10 exponent.toNat) 1
  else round format negative coefficient (Nat.pow 10 exponent.natAbs)

/-- A whole number in the 64-bit format. -/
def ofInt (i : Int) : Binary := round .double (decide (i < 0)) i.natAbs 1

def isNegative : Binary → Bool
  | .nan => false
  | .infinite negative => negative
  | .finite negative _ => negative

def negate : Binary → Binary
  | .nan => .nan
  | .infinite negative => .infinite (!negative)
  | .finite negative units => .finite (!negative) units

/-- Zero of either sign. -/
def isZero : Binary → Bool
  | .finite _ units => units == 0
  | _ => false

/-- The signed units of a finite number. -/
def signed (negative : Bool) (units : Nat) : Int := if negative then -units else units

/-- A sum of signed units; `zeroSign` is the sign that an exact zero takes. -/
def ofSigned (format : BinaryFormat) (zeroSign : Bool) (i : Int) : Binary :=
  if i = 0 then .finite zeroSign 0
  else round format (decide (i < 0)) i.natAbs (Nat.pow 2 format.scale)

def add (format : BinaryFormat) : Binary → Binary → Binary
  | .finite s x, .finite t y => ofSigned format (s && t) (signed s x + signed t y)
  | .infinite s, .infinite t => if s = t then .infinite s else .nan
  | .infinite s, .finite _ _ => .infinite s
  | .finite _ _, .infinite t => .infinite t
  | _, _ => .nan

def sub (format : BinaryFormat) (a b : Binary) : Binary := add format a b.negate

def mul (format : BinaryFormat) : Binary → Binary → Binary
  | .finite s x, .finite t y => round format (s != t) (x * y) (Nat.pow 2 (2 * format.scale))
  | .infinite s, .infinite t => .infinite (s != t)
  | .infinite s, .finite t y => if y = 0 then .nan else .infinite (s != t)
  | .finite s x, .infinite t => if x = 0 then .nan else .infinite (s != t)
  | _, _ => .nan

def div (format : BinaryFormat) : Binary → Binary → Binary
  | .finite s x, .finite t y =>
      if y = 0 then if x = 0 then .nan else .infinite (s != t)
      else round format (s != t) x y
  | .infinite s, .finite t _ => .infinite (s != t)
  | .finite s _, .infinite t => .finite (s != t) 0
  | _, _ => .nan

/-- What is left of the first number after the whole part of the quotient, with the sign of
the first number. -/
def rem : Binary → Binary → Binary
  | .finite s x, .finite _ y => if y = 0 then .nan else .finite s (x % y)
  | .finite s x, .infinite _ => .finite s x
  | _, _ => .nan

/-- The number with its fraction cut off. -/
def truncate (format : BinaryFormat) : Binary → Binary
  | .finite s x => .finite s (x / Nat.pow 2 format.scale * Nat.pow 2 format.scale)
  | other => other

/-- The whole quotient whose remainder is not negative. -/
def divFloor (format : BinaryFormat) (a b : Binary) : Binary :=
  let quotient := truncate format (div format a b)
  let one := round format false 1 1
  match rem a b with
  | .finite true (_ + 1) => if b.isNegative then add format quotient one else sub format quotient one
  | _ => quotient

/-- The order of numbers; a NaN compares with nothing, and both zeros are equal. -/
def compare? : Binary → Binary → Option Ordering
  | .nan, _ => none
  | _, .nan => none
  | .finite s x, .finite t y => some (compare (signed s x) (signed t y))
  | .infinite s, .infinite t => some (compare t.toNat s.toNat)
  | .infinite s, .finite _ _ => some (if s then .lt else .gt)
  | .finite _ _, .infinite t => some (if t then .gt else .lt)

/-- The whole number a finite number is, when it is one. -/
def toInt? (format : BinaryFormat) : Binary → Option Int
  | .finite s x =>
      if x % Nat.pow 2 format.scale = 0 then some (signed s (x / Nat.pow 2 format.scale)) else none
  | _ => none

end Binary
end Multipage
