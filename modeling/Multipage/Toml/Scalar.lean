/-
# Multipage.Toml.Scalar -- the values that are written without quotes

Truth values, numbers, dates and times.  Digits may be grouped by single underscores with a
digit on either side, a whole decimal number has no leading zero, and only decimal numbers have
a sign.  The seconds of a time may be left out, and a time stands alone or after a date with
`T`, `t` or one space between them; an offset needs both.

* `integer?`, `float?`, `dateTime?` -- no text is read by two of them;
* `Scalar.ofText?` -- any of these values.
-/
import Multipage.Toml.Token
import Multipage.Toml.Value
import Multipage.Number.Decimal

namespace Multipage.Toml.Scalar

set_option autoImplicit false

/-- The digits of a run in which underscores group digits. -/
def ungroup? (isDigit : Char → Bool) (t : Text) : Option Text :=
  let groups := t.splitOn '_'
  if groups.all (Text.isRunOf isDigit) then some groups.flatten else none

/-- The digits of a decimal number without a leading zero. -/
def wholeDigits? (t : Text) : Option Text := do
  let digits ← ungroup? Char.isDigit t
  if digits.head? = some '0' ∧ 1 < digits.length then none else some digits

/-- Whole numbers are held in 128 bits, with or without a sign. -/
def ofInt (i : Int) : Toml :=
  if -Int.pow 2 127 ≤ i && i < Int.pow 2 128 then .integer i else .beyondRange

/-- A digit of a number in base `base`. -/
def isDigitOf (base : Nat) (c : Char) : Bool :=
  match Text.hexDigit? c with
  | some digit => digit < base
  | none => false

/-- The number that digits in base `base` stand for. -/
def inBase? (base : Nat) (t : Text) : Option Toml :=
  (ungroup? (isDigitOf base) t).map fun digits =>
    ofInt (digits.foldl (fun value c => value * base + (Text.hexDigit? c).getD 0) 0)

/-- A whole number. -/
def integer? : Text → Option Toml
  | '0' :: 'x' :: digits => inBase? 16 digits
  | '0' :: 'o' :: digits => inBase? 8 digits
  | '0' :: 'b' :: digits => inBase? 2 digits
  | t =>
      let (negative, magnitude) := Decimal.splitSign t
      (wholeDigits? magnitude).map fun digits =>
        let n := Decimal.digitsValue digits
        ofInt (if negative then -n else n)

/-- The digits behind a mark, or nothing when there is no mark. -/
def fraction? : Text → Option Text
  | [] => some []
  | '.' :: digits => (ungroup? Char.isDigit digits).map ('.' :: ·)
  | _ => none

/-- The exponent behind a mark, or nothing when there is no mark. -/
def exponent? : Text → Option Text
  | [] => some []
  | _ :: '+' :: digits => (ungroup? Char.isDigit digits).map (['e', '+'] ++ ·)
  | _ :: '-' :: digits => (ungroup? Char.isDigit digits).map (['e', '-'] ++ ·)
  | _ :: digits => (ungroup? Char.isDigit digits).map ('e' :: ·)

/-- A number with a fraction, an exponent or both. -/
def decimal? (t : Text) : Option Text := do
  let isMark := fun (c : Char) => c == 'e' || c == 'E'
  let mantissa := t.takeWhile fun c => !isMark c
  let whole := mantissa.takeWhile (· ≠ '.')
  let wholeDigits ← wholeDigits? whole
  let fraction ← fraction? (mantissa.dropWhile (· ≠ '.'))
  let exponent ← exponent? (t.dropWhile fun c => !isMark c)
  if fraction.isEmpty && exponent.isEmpty then none
  else some (wholeDigits ++ fraction ++ exponent)

/-- A floating number: a decimal one, an infinity or not a number. -/
def float? (t : Text) : Option Toml :=
  let (negative, magnitude) := Decimal.splitSign t
  if magnitude = "inf".toList then some (.float (.infinite negative))
  else if magnitude = "nan".toList then some (.float .nan)
  else do
    let digits ← decimal? magnitude
    let d ← Decimal.ofText? digits
    match Binary.ofDecimal .double negative d.coefficient d.exponent with
    | .infinite _ => some .beyondRange
    | x => some (.float x)

/-! ## Dates and times -/

/-- Read so many digits. -/
def readDigits (count : Nat) (t : Text) : Option (Nat × Text) :=
  let digits := t.take count
  if digits.length = count ∧ digits.all Char.isDigit = true then
    some (Decimal.digitsValue digits, t.drop count)
  else none

/-- Read two digits between two bounds. -/
def readPair (lowest highest : Nat) (t : Text) : Option (Nat × Text) := do
  let (n, rest) ← readDigits 2 t
  if lowest ≤ n ∧ n ≤ highest then some (n, rest) else none

/-- What follows the character, when `t` begins with it. -/
def after? (c : Char) : Text → Option Text
  | first :: rest => if first = c then some rest else none
  | [] => none

def isLeapYear (year : Nat) : Bool := year % 4 == 0 && (year % 100 != 0 || year % 400 == 0)

def daysIn (year month : Nat) : Nat :=
  if month = 2 then if isLeapYear year then 29 else 28
  else if month = 4 ∨ month = 6 ∨ month = 9 ∨ month = 11 then 30
  else 31

/-- What follows a date. -/
def afterDate? (t : Text) : Option Text := do
  let (year, rest) ← readDigits 4 t
  let (month, rest) ← readPair 1 12 (← after? '-' rest)
  let (_, rest) ← readPair 1 (daysIn year month) (← after? '-' rest)
  some rest

/-- What follows the fraction of a second, if there is one. -/
def afterFraction? : Text → Option Text
  | '.' :: rest =>
      if (rest.takeWhile Char.isDigit).isEmpty then none else some (rest.dropWhile Char.isDigit)
  | rest => some rest

/-- What follows a time. -/
def afterTime? (t : Text) : Option Text := do
  let (_, rest) ← readPair 0 23 t
  let (_, rest) ← readPair 0 59 (← after? ':' rest)
  match rest with
  | ':' :: rest => do
      let (_, rest) ← readPair 0 60 rest
      afterFraction? rest
  | rest => some rest

/-- What follows an offset, if there is one. -/
def afterOffset? : Text → Option Text
  | c :: rest =>
      if c = 'Z' ∨ c = 'z' then some rest
      else if c = '+' ∨ c = '-' then do
        let (_, rest) ← readPair 0 23 rest
        let (_, rest) ← readPair 0 59 (← after? ':' rest)
        some rest
      else none
  | [] => some []

/-- Whether a text is a date, a time, or both with or without an offset. -/
def isDateTime (t : Text) : Bool :=
  match afterDate? t with
  | some [] => true
  | some (c :: rest) =>
      (c == 'T' || c == 't' || c == ' ') && (afterTime? rest).bind afterOffset? == some []
  | none => afterTime? t == some []

def dateTime? (t : Text) : Option Toml := if isDateTime t then some (.dateTime t) else none

/-! ## All of them -/

def boolean? (t : Text) : Option Toml :=
  if t = "true".toList then some (.boolean true)
  else if t = "false".toList then some (.boolean false)
  else none

/-- The value that a text without quotes stands for. -/
def ofText? (t : Text) : Option Toml :=
  boolean? t <|> integer? t <|> float? t <|> dateTime? t

end Multipage.Toml.Scalar
