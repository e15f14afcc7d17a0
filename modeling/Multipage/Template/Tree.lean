/-
# Multipage.Template.Tree -- expressions and statements

A template is a list of statements.  Arguments of filters, tests and calls are expressions with
an optional name.
-/
import Multipage.Template.Operator

namespace Multipage.Template

set_option autoImplicit false

inductive Expr where
  | constant (v : Value)
  | variable (name : Text)
  | list (items : List Expr)
  | map (entries : List (Expr × Expr))
  | negate (e : Expr)
  | not (e : Expr)
  | both (a b : Expr)
  | either (a b : Expr)
  | operate (op : Operator) (a b : Expr)
  /-- `yes if test else no`; without an else part `no` is the undefined value. -/
  | choose (test yes no : Expr)
  | member (e : Expr) (name : Text)
  | item (e index : Expr)
  | filter (name : Text) (e : Expr) (arguments : List (Option Text × Expr))
  | test (name : Text) (e : Expr) (arguments : List (Option Text × Expr))
  | call (name : Text) (arguments : List (Option Text × Expr))
  | callMethod (e : Expr) (name : Text) (arguments : List (Option Text × Expr))
  | callValue (e : Expr) (arguments : List (Option Text × Expr))

instance : Inhabited Expr := ⟨.constant .undefined⟩

/-- What a loop or an assignment binds. -/
inductive Target where
  | name (t : Text)
  | several (targets : List Target)

inductive Statement where
  | data (t : Text)
  | emit (e : Expr)
  | choose (test : Expr) (yes no : List Statement)
  /-- Run the body for each item that `keep` lets pass, or `otherwise` when there is none. -/
  | loop (target : Target) (items : Expr) (keep : Option Expr) (body otherwise : List Statement)
  | assign (target : Target) (e : Expr)
  | assignMember (e : Expr) (name : Text) (value : Expr)
  /-- Bind the text that the body renders, after a chain of filters on it. -/
  | capture (name : Text) (filtered : Expr) (body : List Statement)
  | embed (names : Expr) (ignoreMissing : Bool)

/-- The name that a captured body has inside the chain of its filters; no name is spelled so. -/
def captured : Text := [' ']

end Multipage.Template
