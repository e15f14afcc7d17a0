/-
# Multipage.Template.Filter -- filters and tests

A filter takes a value and arguments and gives a value; a test gives a truth value.  Where a
filter works on text, any value stands for its text.  A name that is not listed is unknown only
when it is applied.
-/
import Multipage.Template.Operator
import Multipage.Text.Blank
import Multipage.Text.CaseMap

namespace Multipage.Template

set_option autoImplicit false

/-- Evaluated arguments with their names. -/
abbrev Arguments := List (Option Text × Value)

namespace Filter

abbrev Answer := Except TemplateFault Value

/-- The arguments without a name. -/
def positional (arguments : Arguments) : List Value :=
  arguments.filterMap fun (name, v) => if name.isNone then some v else none

/-- The argument of that name. -/
def named? (arguments : Arguments) (name : Text) : Option Value :=
  (arguments.find? fun argument => argument.1 == some name).map Prod.snd

/-- No more than `most` positional arguments and no others. -/
def atMost (most : Nat) (arguments : Arguments) : Except TemplateFault (List Value) :=
  if arguments.length ≤ most then
    if (positional arguments).length = arguments.length then .ok (positional arguments)
    else .error .tooManyArguments
  else .error .tooManyArguments

/-- The items of a value that a filter goes through. -/
def itemsOf (v : Value) : Except TemplateFault (List Value) :=
  match v.items? with
  | some items => .ok items
  | none => .error .invalidOperation

/-- `t` with `new` in the place of every `old`, looked for from the left, as long as `fuel`
characters last. -/
def replaceAll (old new : Text) : Nat → Text → Text
  | 0, t => t
  | fuel + 1, t =>
      match t with
      | [] => []
      | c :: rest =>
          if old.isPrefixOf (c :: rest) then new ++ replaceAll old new fuel (rest.drop (old.length - 1))
          else c :: replaceAll old new fuel rest

/-- `t` with `new` in the place of `old`; nothing stands between any two characters. -/
def replaced (old new t : Text) : Text :=
  if old.isEmpty then new ++ t.flatMap fun c => c :: new
  else replaceAll old new (t.length + 1) t

/-- Texts with `sep` between them; nothing comes before the first that is not empty. -/
def joined (sep : Text) (parts : List Text) : Text :=
  parts.foldl (fun t part => if t.isEmpty then part else t ++ sep ++ part) []

/-- The order that sorting goes by: strings without regard to the case of ASCII letters,
unless the case is to count. -/
def sortOrder (caseCounts : Bool) (a b : Value) : Ordering :=
  match a, b with
  | .string s, .string t =>
      if caseCounts then compareOfLessAndEq s t
      else compareOfLessAndEq (Text.asciiLower s) (Text.asciiLower t)
  | a, b => a.order b

/-- Whether an argument is given and true. -/
def isSet (arguments : Arguments) (name : Text) : Bool :=
  (named? arguments name).any Value.isTrue

/-- What items are sorted by: themselves, or a member of theirs. -/
def sortKey (arguments : Arguments) (v : Value) : Option Value :=
  match named? arguments "attribute" with
  | some (.string path) =>
      (path.splitOn '.').foldl (fun found name => found.bind fun v => v.member? (.string name))
        (some v)
  | _ => some v

/-- The items in order, equal ones as they were. -/
def sorted (arguments : Arguments) (items : List Value) : List Value :=
  let caseCounts := isSet arguments "case_sensitive"
  let keyed := items.map fun v => (sortKey arguments v, v)
  let ordered := keyed.mergeSort fun a b =>
    match a.1, b.1 with
    | some x, some y => (sortOrder caseCounts x y).isLE
    | _, _ => true
  let items := ordered.map Prod.snd
  if isSet arguments "reverse" then items.reverse else items

def reverseOf : Value → Answer
  | .undefined => .ok .undefined
  | .nothing => .ok .nothing
  | .string t => .ok (.string t.reverse)
  | .list items => .ok (.list items.reverse)
  | .map entries => .ok (.list (entries.map Prod.fst).reverse)
  | _ => .error .invalidOperation

def firstOf : Value → Answer
  | .string t => .ok (t.head?.elim .undefined fun c => .string [c])
  | .list items => .ok (items.head?.getD .undefined)
  | .map entries => .ok (entries.head?.elim .undefined Prod.fst)
  | _ => .error .invalidOperation

def lastOf : Value → Answer
  | .string t => .ok (t.getLast?.elim .undefined fun c => .string [c])
  | .list items => .ok (items.getLast?.getD .undefined)
  | _ => .error .invalidOperation

/-- A value, or another one in its place when it is undefined, or not true where that is asked
for. -/
def defaultOf (v : Value) (arguments : List Value) : Value :=
  let lax := (arguments[1]?).any Value.isTrue
  if v.isUndefined || (lax && !v.isTrue) then (arguments[0]?).getD (.string []) else v

/-- A filter that makes text of text. -/
def onText (f : Text → Text) (v : Value) (arguments : Arguments) : Answer :=
  (atMost 0 arguments).map fun _ => .string (f v.display)

def trimmed (v : Value) (arguments : Arguments) : Answer :=
  (atMost 1 arguments).map fun
    | [] | .nothing :: _ | .undefined :: _ => .string (Text.trim v.display)
    | chars :: _ => .string (Text.trimBy (fun c => chars.display.contains c) v.display)

def replacedIn (v : Value) (arguments : Arguments) : Answer :=
  match atMost 2 arguments with
  | .error e => .error e
  | .ok [old, new] => .ok (.string (replaced old.display new.display v.display))
  | .ok _ => .error .missingArgument

def joinedBy (v : Value) (arguments : Arguments) : Answer :=
  match atMost 1 arguments with
  | .error e => .error e
  | .ok arguments =>
      let sep := match arguments with
        | [] | .nothing :: _ | .undefined :: _ => []
        | sep :: _ => sep.display
      (itemsOf v).map fun items => .string (joined sep (items.map Value.display))

def lengthOf (v : Value) (arguments : Arguments) : Answer :=
  match atMost 0 arguments with
  | .error e => .error e
  | .ok _ =>
      match v.length? with
      | some n => .ok (.integer n)
      | none => .error .invalidOperation

/-- A filter without arguments. -/
def bare (f : Value → Answer) (v : Value) (arguments : Arguments) : Answer :=
  match atMost 0 arguments with
  | .error e => .error e
  | .ok _ => f v

def sortedOf (v : Value) (arguments : Arguments) : Answer :=
  if (positional arguments).isEmpty then
    (itemsOf v).map fun items => .list (sorted arguments items)
  else .error .tooManyArguments

/-- The filters by name. -/
def known : List (String × (Value → Arguments → Answer)) :=
  [("upper", onText Text.upper), ("lower", onText Text.lower), ("trim", trimmed),
   ("replace", replacedIn), ("length", lengthOf), ("count", lengthOf),
   ("default", fun v arguments => (atMost 2 arguments).map (defaultOf v)),
   ("d", fun v arguments => (atMost 2 arguments).map (defaultOf v)),
   ("join", joinedBy), ("first", bare firstOf), ("last", bare lastOf),
   ("reverse", bare reverseOf), ("sort", sortedOf),
   ("list", bare fun v => (itemsOf v).map .list), ("string", onText id), ("safe", onText id)]

/-- Apply the filter of that name. -/
def apply (name : Text) (v : Value) (arguments : Arguments) : Answer :=
  match known.find? fun entry => entry.1.toList == name with
  | some (_, filter) => filter v arguments
  | none => .error .unknownFilter

end Filter

namespace Test

/-- The tests by name. -/
def known : List (String × (Value → Bool)) :=
  [("defined", fun v => !v.isUndefined), ("undefined", Value.isUndefined), ("none", Value.isNone),
   ("string", fun v => v.rank == 4), ("number", fun v => v.rank == 3),
   ("boolean", fun v => v.rank == 2), ("sequence", fun v => v.rank == 5),
   ("mapping", fun v => v.rank == 6), ("iterable", fun v => v.items?.isSome),
   ("odd", fun v => v.toInt?.any fun i => i % 2 != 0),
   ("even", fun v => v.toInt?.any fun i => i % 2 == 0)]

/-- Apply the test of that name. -/
def apply (name : Text) (v : Value) (arguments : Arguments) : Except TemplateFault Bool :=
  match known.find? fun entry => entry.1.toList == name with
  | some (_, test) => if arguments.isEmpty then .ok (test v) else .error .tooManyArguments
  | none => .error .unknownTest

end Test
end Multipage.Template
