/-
# Multipage.Template.Operator -- what the operators of a template do

Two whole numbers, truth values among them, are computed exactly, within 128 bits with a sign.
As soon as one operand is a floating number both are, and `/` always takes floating numbers.
`//` and `%` go together so that the remainder of whole numbers is never negative.  Every
operand that has no meaning is an invalid operation.
-/
import Multipage.Context
import Multipage.Template.Value

namespace Multipage.Template

set_option autoImplicit false

/-- The operators between two values that look at both of them. -/
inductive Operator where
  | add | sub | mul | div | floorDiv | rem | pow
  | concat
  | eq | ne | lt | le | gt | ge
  | isIn
  deriving DecidableEq, Repr

namespace Operator

abbrev Answer := Except TemplateFault Value

/-- A whole number that fits. -/
def whole (i : Int) : Answer :=
  if -Int.pow 2 127 ≤ i ∧ i < Int.pow 2 127 then .ok (.integer i) else .error .invalidOperation

/-- Operands of one numeric form. -/
inductive Pair where
  | wholes (a b : Int)
  | floats (a b : Binary)

/-- The common numeric form of two values. -/
def pair? (a b : Value) : Option Pair :=
  match a, b with
  | .float x, b => b.toFloat?.map fun y => .floats x y
  | a, .float y => a.toFloat?.map fun x => .floats x y
  | a, b =>
      match a.toInt?, b.toInt? with
      | some i, some j => some (.wholes i j)
      | _, _ => none

/-- Compute on the common numeric form. -/
def numeric (onWholes : Int → Int → Answer) (onFloats : Binary → Binary → Binary)
    (a b : Value) : Answer :=
  match pair? a b with
  | some (.wholes i j) => onWholes i j
  | some (.floats x y) => .ok (.float (onFloats x y))
  | none => .error .invalidOperation

/-- How often something is to be repeated. -/
def times? (v : Value) : Option Nat :=
  v.toInt?.bind fun i => if 0 ≤ i then some i.toNat else none

def repeated {α : Type} (items : List α) (v : Value) (make : List α → Value) : Answer :=
  match times? v with
  | some n => .ok (make (List.replicate n items).flatten)
  | none => .error .invalidOperation

def addValues (a b : Value) : Answer :=
  match a, b with
  | .list as, .list bs => .ok (.list (as ++ bs))
  | .string as, .string bs => .ok (.string (as ++ bs))
  | a, b => numeric (fun i j => whole (i + j)) (Binary.add .double) a b

def mulValues (a b : Value) : Answer :=
  match a, b with
  | .string t, n => repeated t n .string
  | n, .string t => repeated t n .string
  | .list items, n => repeated items n .list
  | n, .list items => repeated items n .list
  | a, b => numeric (fun i j => whole (i * j)) (Binary.mul .double) a b

def divValues (a b : Value) : Answer :=
  match a.toFloat?, b.toFloat? with
  | some x, some y => .ok (.float (Binary.div .double x y))
  | _, _ => .error .invalidOperation

/-- Division with a remainder that is not negative. -/
def nonzero (f : Int → Int → Int) (i j : Int) : Answer :=
  if j = 0 then .error .invalidOperation else whole (f i j)

/-- A whole number to a power that is not negative and not absurd. -/
def power (i j : Int) : Answer :=
  if j < 0 then .error .invalidOperation
  else if i.natAbs ≤ 1 then
    .ok (.integer (if i = -1 ∧ j % 2 = 0 then 1 else if j = 0 then 1 else i))
  else if 128 ≤ j then .error .invalidOperation
  else whole (Int.pow i j.toNat)

/-- Whether `part` stands somewhere in `t`. -/
def hasInside (part : Text) : Text → Bool
  | [] => part.isEmpty
  | c :: rest => part.isPrefixOf (c :: rest) || hasInside part rest

/-- Whether `container` holds `v`. -/
def holds (v container : Value) : Answer :=
  match container with
  | .undefined => .ok (.bool false)
  | .string t => .ok (.bool (hasInside v.display t))
  | .list items => .ok (.bool (items.any fun item => item.same v))
  | .map entries => .ok (.bool (Value.find? v entries).isSome)
  | _ => .error .invalidOperation

/-- Whether the order of two values is one of those asked for. -/
def ordered (a b : Value) (asked : Ordering → Bool) : Answer := .ok (.bool (asked (a.order b)))

/-- Apply an operator. -/
def apply (op : Operator) (a b : Value) : Answer :=
  match op with
  | .add => addValues a b
  | .sub => numeric (fun i j => whole (i - j)) (Binary.sub .double) a b
  | .mul => mulValues a b
  | .div => divValues a b
  | .floorDiv => numeric (nonzero Int.ediv) (Binary.divFloor .double) a b
  | .rem => numeric (nonzero Int.emod) Binary.rem a b
  | .pow =>
      match pair? a b with
      | some (.wholes i j) => power i j
      | _ => .error .invalidOperation
  | .concat => .ok (.string (a.display ++ b.display))
  | .eq => .ok (.bool (a.same b))
  | .ne => .ok (.bool (!a.same b))
  | .lt => ordered a b Ordering.isLT
  | .le => ordered a b Ordering.isLE
  | .gt => ordered a b Ordering.isGT
  | .ge => ordered a b Ordering.isGE
  | .isIn => holds a b

/-- The opposite of a number; a truth value has none. -/
def negate : Value → Answer
  | .integer i => whole (-i)
  | .float x => .ok (.float x.negate)
  | _ => .error .invalidOperation

end Operator
end Multipage.Template
