/-
# Multipage.Template.Evaluation -- what a template renders

Names are looked up in frames, innermost first.  A loop has a frame of its own, which lasts for
all its rounds; a condition has none.  Evaluation stops at the first fault, and then nothing is
rendered.

A missing name or member is the undefined value, but a member of the undefined value is a fault.
-/
import Multipage.Template.Filter
import Multipage.Template.Tree

namespace Multipage.Template

set_option autoImplicit false

/-- Names and their values. -/
abbrev Frame := List (Text × Value)

/-- The frames in which a name may be bound, the innermost first. -/
abbrev Scope := List Frame

namespace Scope

def find? (scope : Scope) (name : Text) : Option Value :=
  scope.findSome? fun frame => frame.lookup name

/-- Bind a name in the innermost frame. -/
def bind (scope : Scope) (name : Text) (v : Value) : Scope :=
  match scope with
  | [] => [[(name, v)]]
  | frame :: outer => ((name, v) :: frame.filter fun entry => entry.1 != name) :: outer

end Scope

/-- A member that is asked for. -/
def memberOf (v key : Value) : Except TemplateFault Value :=
  match v.member? key with
  | some member => .ok member
  | none => if v.isUndefined then .error .undefinedValue else .ok .undefined

mutual

/-- The value of an expression. -/
def Expr.eval (scope : Scope) : Expr → Except TemplateFault Value
  | .constant v => .ok v
  | .variable name => .ok ((scope.find? name).getD .undefined)
  | .list items => do .ok (.list (← evalItems scope items))
  | .map entries => do
      let entries ← evalEntries scope entries
      .ok (.map (entries.foldl (fun all (key, v) => Value.insertEntry key v all) []))
  | .negate e => do Operator.negate (← e.eval scope)
  | .not e => do .ok (.bool !(← e.eval scope).isTrue)
  | .both a b => do
      let v ← a.eval scope
      if v.isTrue then b.eval scope else .ok v
  | .either a b => do
      let v ← a.eval scope
      if v.isTrue then .ok v else b.eval scope
  | .operate op a b => do
      let v ← a.eval scope
      let w ← b.eval scope
      op.apply v w
  | .choose test yes no => do
      if (← test.eval scope).isTrue then yes.eval scope else no.eval scope
  | .member e name => do memberOf (← e.eval scope) (.string name)
  | .item e index => do
      let v ← e.eval scope
      let key ← index.eval scope
      memberOf v key
  | .filter name e arguments => do
      let v ← e.eval scope
      let arguments ← evalArguments scope arguments
      Filter.apply name v arguments
  | .test name e arguments => do
      let v ← e.eval scope
      let arguments ← evalArguments scope arguments
      .ok (.bool (← Test.apply name v arguments))
  | .call name arguments => do
      let _ ← evalArguments scope arguments
      .error (if (scope.find? name).isSome then .invalidOperation else .unknownFunction)
  | .callMethod e name arguments => do
      let v ← e.eval scope
      let _ ← evalArguments scope arguments
      match v with
      | .map entries =>
          .error (if (Value.find? (.string name) entries).isSome then .invalidOperation
            else .unknownMethod)
      | _ => .error .unknownMethod
  | .callValue e arguments => do
      let _ ← e.eval scope
      let _ ← evalArguments scope arguments
      .error .invalidOperation

def evalItems (scope : Scope) : List Expr → Except TemplateFault (List Value)
  | [] => .ok []
  | e :: rest => do
      let v ← e.eval scope
      let vs ← evalItems scope rest
      .ok (v :: vs)

def evalEntries (scope : Scope) : List (Expr × Expr) → Except TemplateFault (List (Value × Value))
  | [] => .ok []
  | (key, e) :: rest => do
      let k ← key.eval scope
      let v ← e.eval scope
      let more ← evalEntries scope rest
      .ok ((k, v) :: more)

def evalArguments (scope : Scope) :
    List (Option Text × Expr) → Except TemplateFault Arguments
  | [] => .ok []
  | (name, e) :: rest => do
      let v ← e.eval scope
      let more ← evalArguments scope rest
      .ok ((name, v) :: more)

end

mutual

/-- Bind a value to a target; several targets take the items of a list of that length. -/
def Target.bind (scope : Scope) (v : Value) : Target → Except TemplateFault Scope
  | .name t => .ok (scope.bind t v)
  | .several targets =>
      match v with
      | .list items =>
          if items.length = targets.length then bindAll scope items targets
          else .error .cannotUnpack
      | _ => .error .cannotUnpack

def bindAll (scope : Scope) : List Value → List Target → Except TemplateFault Scope
  | v :: vs, target :: targets => do bindAll (← target.bind scope v) vs targets
  | _, _ => .ok scope

end

/-- What `loop` stands for in the round at `index` of `items`. -/
def loopValue (items : List Value) (index : Nat) : Value :=
  let entry := fun (name : String) (v : Value) => (Value.string name.toList, v)
  .map [entry "depth" (.integer 1), entry "depth0" (.integer 0),
    entry "first" (.bool (index == 0)), entry "index" (.integer (index + 1)),
    entry "index0" (.integer index), entry "last" (.bool (index + 1 == items.length)),
    entry "length" (.integer items.length),
    entry "nextitem" ((items[index + 1]?).getD .undefined),
    entry "previtem" (if index = 0 then .undefined else (items[index - 1]?).getD .undefined),
    entry "revindex" (.integer (items.length - index)),
    entry "revindex0" (.integer (items.length - index - 1))]

/-- Look for the templates that an include names: there is no other template than the page
itself, which cannot include itself. -/
def embedText (self : Text) (ignoreMissing : Bool) (names : Value) : Except TemplateFault Text :=
  let names := match names with
    | .list items => items
    | v => [v]
  let rec go : List Value → Except TemplateFault Text
    | [] => if ignoreMissing || names.isEmpty then .ok [] else .error .templateNotFound
    | .string name :: rest => if name = self then .error .badInclude else go rest
    | _ :: _ => .error .invalidOperation
  go names

mutual

/-- Run a statement: the scope it leaves and the text it renders.  `self` is the name of the
template. -/
def Statement.run (self : Text) (scope : Scope) : Statement → Except TemplateFault (Scope × Text)
  | .data t => .ok (scope, t)
  | .emit e => do .ok (scope, (← e.eval scope).display)
  | .choose test yes no => do
      if (← test.eval scope).isTrue then runAll self scope yes else runAll self scope no
  | .loop target items keep body otherwise => do
      let v ← items.eval scope
      match v.items? with
      | none => .error .invalidOperation
      | some all => do
          let kept ←
            match keep with
            | none => .ok all
            | some e => all.filterM fun item => do
                .ok (← e.eval (← target.bind ([] :: scope) item)).isTrue
          if kept.isEmpty then runAll self scope otherwise
          else do
            let (inner, t) ← kept.zipIdx.foldlM (fun (state : Scope × Text) (item, index) => do
              let round := state.1.bind "loop" (loopValue kept index)
              let (scope, t) ← runAll self (← target.bind round item) body
              .ok (scope, state.2 ++ t)) ([] :: scope, [])
            .ok (inner.drop 1, t)
  | .assign target e => do
      let v ← e.eval scope
      .ok (← target.bind scope v, [])
  | .assignMember e _ value => do
      let _ ← value.eval scope
      let _ ← e.eval scope
      .error .invalidOperation
  | .capture name filtered body => do
      let (scope, t) ← runAll self scope body
      let v ← filtered.eval ([(captured, .string t)] :: scope)
      .ok (scope.bind name v, [])
  | .embed names ignoreMissing => do
      .ok (scope, ← embedText self ignoreMissing (← names.eval scope))

/-- Run statements in order. -/
def runAll (self : Text) (scope : Scope) :
    List Statement → Except TemplateFault (Scope × Text)
  | [] => .ok (scope, [])
  | statement :: rest => do
      let (scope, t) ← statement.run self scope
      let (scope, more) ← runAll self scope rest
      .ok (scope, t ++ more)

end

/-- The text that a template renders over named values. -/
def render (self : Text) (statements : List Statement) (values : Members) :
    Except TemplateFault Text :=
  let globals : Frame := values.map fun (name, v) => (name, Value.ofJson v)
  (runAll self [[], globals] statements).map Prod.snd

end Multipage.Template
