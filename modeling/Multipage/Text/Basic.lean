/-
# Multipage.Text.Basic -- text as characters, and how it is cut

Every text the library reads or writes is a list of characters (`Text`), so that a
statement about a parser is a statement about lists.  A string literal stands for its
characters.

The cuts are few and each is one list function:

* `splitOnce c t` cuts at the first `c`, `splitLast c t` at the last one, and both are
  `none` when `t` has no `c`;
* `List.splitOn c t` cuts at every `c` and `join` puts the pieces back;
* `trimBy p t` drops the characters in `p` from both ends;
* `asciiLower` and `eqIgnoringCase` compare letters as the header grammar does: the
  26 letters of ASCII only.
-/

namespace Multipage

set_option autoImplicit false

/-- Text as its characters. -/
abbrev Text := List Char

/-- Raw content: a file, a header value or a binary body. -/
abbrev Bytes := List UInt8

instance : Coe String Text := ⟨String.toList⟩

namespace Text

/-- The two parts of `t` around the first `c`. -/
def splitOnce (c : Char) (t : Text) : Option (Text × Text) :=
  if c ∈ t then some (t.takeWhile (· ≠ c), (t.dropWhile (· ≠ c)).tail) else none

/-- The two parts of `t` around the last `c`. -/
def splitLast (c : Char) (t : Text) : Option (Text × Text) :=
  (splitOnce c t.reverse).map fun (after, before) => (before.reverse, after.reverse)

/-- `t` without the characters in `p` at its start. -/
def trimStartBy (p : Char → Bool) (t : Text) : Text := t.dropWhile p

/-- `t` without the characters in `p` at its end. -/
def trimEndBy (p : Char → Bool) (t : Text) : Text := (t.reverse.dropWhile p).reverse

/-- `t` without the characters in `p` at either end. -/
def trimBy (p : Char → Bool) (t : Text) : Text := trimEndBy p (trimStartBy p t)

/-- `parts` with `sep` between neighbours. -/
def join (sep : Text) (parts : List Text) : Text := List.intercalate sep parts

/-- The letters of ASCII in lower case; all else as it is. -/
def asciiLower (t : Text) : Text := t.map Char.toLower

/-- `a` and `b` differ in the case of ASCII letters only. -/
def eqIgnoringCase (a b : Text) : Bool := asciiLower a == asciiLower b

/-- The decimal digits of `n`. -/
def ofNat (n : Nat) : Text := Nat.toDigits 10 n

/-- The decimal digits of `i`, after a minus sign when it is negative. -/
def ofInt (i : Int) : Text := if i < 0 then '-' :: ofNat i.natAbs else ofNat i.natAbs

/-- How many bytes `t` takes. -/
def byteSize (t : Text) : Nat := t.foldr (fun c size => c.utf8Size + size) 0

/-- What follows `start` in `t`, when `t` begins with it. -/
def dropStart? (start t : Text) : Option Text :=
  if start.isPrefixOf t then some (t.drop start.length) else none

/-- Whether `t` is non-empty and made of characters in `p` only. -/
def isRunOf (p : Char → Bool) (t : Text) : Bool := !t.isEmpty && t.all p

/-- The value of a hexadecimal digit. -/
def hexDigit? (c : Char) : Option Nat :=
  if '0' ≤ c ∧ c ≤ '9' then some (c.toNat - '0'.toNat)
  else if 'A' ≤ c ∧ c ≤ 'F' then some (c.toNat - 'A'.toNat + 10)
  else if 'a' ≤ c ∧ c ≤ 'f' then some (c.toNat - 'a'.toNat + 10)
  else none

/-- The number that hexadecimal digits stand for; none of them is zero. -/
def hexNumber? (digits : Text) : Option Nat :=
  digits.foldlM (fun value c => (hexDigit? c).map (value * 16 + ·)) 0

/-- Texts in the order of their code points, each once or as often as it occurs. -/
def sorted (ts : List Text) : List Text :=
  ts.mergeSort fun a b => !List.lex b a fun c d => decide (c.toNat < d.toNat)

end Text
end Multipage
