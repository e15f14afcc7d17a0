/-
# Multipage.Template.Value -- what a template computes with

Values are those of the context, and one more: the undefined value, which stands for a missing
name or member, prints as nothing and counts as false.

* `isTrue` -- false are the undefined value, `None`, `False`, zero and everything empty;
* `same` -- equality, for which truth values are the numbers 0 and 1;
* `order` -- a total order: first by `rank` of the kind of value, then within the kind;
* `display` -- the text of a value on its own; inside a list or a map `picture` puts strings in
  quotes.
-/
import Multipage.Json.Value
import Multipage.Number.Shortest
import Multipage.Text.Quoted

namespace Multipage.Template

set_option autoImplicit false

inductive Value where
  | undefined
  | nothing
  | bool (b : Bool)
  | integer (i : Int)
  | float (x : Binary)
  | string (t : Text)
  | list (items : List Value)
  /-- Entries in the order of their keys. -/
  | map (entries : List (Value × Value))

instance : Inhabited Value := ⟨.undefined⟩

namespace Value

mutual

/-- The value of a context value. -/
def ofJson : Json → Value
  | .null => .nothing
  | .bool b => .bool b
  | .integer i => .integer i
  | .float x => .float x
  | .string t => .string t
  | .array items => .list (ofItems items)
  | .object members => .map (ofMembers members)

def ofItems : List Json → List Value
  | [] => []
  | item :: rest => ofJson item :: ofItems rest

def ofMembers : List (Text × Json) → List (Value × Value)
  | [] => []
  | (name, value) :: rest => (.string name, ofJson value) :: ofMembers rest

end

def isUndefined : Value → Bool
  | .undefined => true
  | _ => false

def isNone : Value → Bool
  | .nothing => true
  | _ => false

def isTrue : Value → Bool
  | .undefined | .nothing => false
  | .bool b => b
  | .integer i => i != 0
  | .float x => !x.isZero
  | .string t => !t.isEmpty
  | .list items => !items.isEmpty
  | .map entries => !entries.isEmpty

/-- A number or a truth value as a number of the 64-bit format. -/
def toFloat? : Value → Option Binary
  | .bool b => some (Binary.ofInt (if b then 1 else 0))
  | .integer i => some (Binary.ofInt i)
  | .float x => some x
  | _ => none

/-- A whole number, or a truth value as one. -/
def toInt? : Value → Option Int
  | .bool b => some (if b then 1 else 0)
  | .integer i => some i
  | .float x => x.toInt? .double
  | _ => none

/-- A whole number in the units of the 64-bit format. -/
def unitsOfInt (i : Int) : Int := i * Int.pow 2 BinaryFormat.double.scale

/-- The order of a whole number and a floating number; a NaN comes last. -/
def orderIntFloat (i : Int) : Binary → Ordering
  | .nan => .lt
  | .infinite negative => if negative then .gt else .lt
  | .finite negative units => compare (unitsOfInt i) (Binary.signed negative units)

/-- The order of floating numbers; a NaN comes last. -/
def orderFloats (x y : Binary) : Ordering :=
  match Binary.compare? x y with
  | some o => o
  | none => compare (x == .nan).toNat (y == .nan).toNat

/-- The order of two numbers or truth values. -/
def orderNumbers? : Value → Value → Option Ordering
  | .float x, .float y => some (orderFloats x y)
  | a, .float y => (a.toInt?).map fun i => orderIntFloat i y
  | .float x, b => (b.toInt?).map fun i => (orderIntFloat i x).swap
  | a, b =>
      match a.toInt?, b.toInt? with
      | some i, some j => some (compare i j)
      | _, _ => none

/-- Equality of two numbers or truth values; a NaN equals nothing. -/
def sameNumbers (a b : Value) : Bool :=
  match a, b with
  | .float .nan, _ => false
  | _, .float .nan => false
  | a, b => orderNumbers? a b == some .eq

mutual

/-- Equality. -/
def same : Value → Value → Bool
  | .undefined, .undefined => true
  | .nothing, .nothing => true
  | .string a, .string b => a == b
  | .list as, .list bs => sameItems as bs
  | .map as, .map bs => sameEntries as bs
  | .bool a, b => sameNumbers (.bool a) b
  | .integer a, b => sameNumbers (.integer a) b
  | .float a, b => sameNumbers (.float a) b
  | _, _ => false

def sameItems : List Value → List Value → Bool
  | [], [] => true
  | a :: as, b :: bs => same a b && sameItems as bs
  | _, _ => false

def sameEntries : List (Value × Value) → List (Value × Value) → Bool
  | [], [] => true
  | (k, a) :: as, (l, b) :: bs => same k l && same a b && sameEntries as bs
  | _, _ => false

end

/-- The place of a kind of value in the order. -/
def rank : Value → Nat
  | .undefined => 0
  | .nothing => 1
  | .bool _ => 2
  | .integer _ | .float _ => 3
  | .string _ => 4
  | .list _ => 5
  | .map _ => 6

mutual

/-- The order of values. -/
def order : Value → Value → Ordering
  | .string a, .string b => compareOfLessAndEq a b
  | .list as, .list bs => orderItems as bs
  | .map as, .map bs => orderEntries as bs
  | a, b =>
      if a.rank = b.rank then (orderNumbers? a b).getD .eq else compare a.rank b.rank

def orderItems : List Value → List Value → Ordering
  | [], [] => .eq
  | [], _ :: _ => .lt
  | _ :: _, [] => .gt
  | a :: as, b :: bs => (order a b).then (orderItems as bs)

def orderEntries : List (Value × Value) → List (Value × Value) → Ordering
  | [], [] => .eq
  | [], _ :: _ => .lt
  | _ :: _, [] => .gt
  | (k, a) :: as, (l, b) :: bs => ((order k l).then (order a b)).then (orderEntries as bs)

end

/-- A floating number on its own always has a plain point. -/
def floatLayout : FloatLayout := ⟨none, none, false⟩

/-- A floating number inside a list or a map has a plain point from `0.0001` up to below
`1e16`. -/
def innerFloatLayout : FloatLayout := ⟨some (-4), some 15, false⟩

def floatText (layout : FloatLayout) : Binary → Text
  | .nan => "NaN"
  | .infinite false => "inf"
  | .infinite true => "-inf"
  | .finite negative units => layout.finite negative units

def boolText (b : Bool) : Text := if b then "True" else "False"

mutual

/-- The text of a value inside a list or a map. -/
def picture : Value → Text
  | .undefined => "undefined"
  | .nothing => "None"
  | .bool b => boolText b
  | .integer i => Text.ofInt i
  | .float x => floatText innerFloatLayout x
  | .string t => Text.quoted t
  | .list items => ['['] ++ Text.join ", " (pictures items) ++ [']']
  | .map entries => ['\x7b'] ++ Text.join ", " (entryPictures entries) ++ ['\x7d']

def pictures : List Value → List Text
  | [] => []
  | item :: rest => picture item :: pictures rest

def entryPictures : List (Value × Value) → List Text
  | [] => []
  | (key, value) :: rest => (picture key ++ ": " ++ picture value) :: entryPictures rest

end

/-- The text of a value on its own. -/
def display : Value → Text
  | .undefined => []
  | .string t => t
  | .float x => floatText floatLayout x
  | v => picture v

/-- The value under a key. -/
def find? (key : Value) (entries : List (Value × Value)) : Option Value :=
  (entries.find? fun entry => same entry.1 key).map Prod.snd

/-- Put a value under a key, in the place that the order of the keys asks for. -/
def insertEntry (key value : Value) : List (Value × Value) → List (Value × Value)
  | [] => [(key, value)]
  | (first, held) :: rest =>
      match order key first with
      | .eq => (first, value) :: rest
      | .lt => (key, value) :: (first, held) :: rest
      | .gt => (first, held) :: insertEntry key value rest

/-- The place that an index stands for, counting from the end when it is negative. -/
def place? (index : Int) (length : Nat) : Option Nat :=
  if 0 ≤ index then some index.toNat
  else if index.natAbs ≤ length then some (length - index.natAbs) else none

/-- The member of a value under a key or an index. -/
def member? (v key : Value) : Option Value :=
  match v with
  | .map entries => find? key entries
  | .list items => (toInt? key).bind fun i => (place? i items.length).bind fun n => items[n]?
  | .string t =>
      (toInt? key).bind fun i => (place? i t.length).bind fun n => (t[n]?).map fun c => .string [c]
  | _ => none

/-- The values that a loop goes through; numbers and truth values have none. -/
def items? : Value → Option (List Value)
  | .undefined | .nothing => some []
  | .string t => some (t.map fun c => .string [c])
  | .list items => some items
  | .map entries => some (entries.map Prod.fst)
  | _ => none

/-- How many characters, items or entries there are. -/
def length? : Value → Option Nat
  | .string t => some t.length
  | .list items => some items.length
  | .map entries => some entries.length
  | _ => none

end Value
end Multipage.Template
