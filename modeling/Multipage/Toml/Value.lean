/-
# Multipage.Toml.Value -- what a TOML document holds

A number can be written that neither 128 bits nor a 64-bit floating number hold.  Such a number
is well formed, so reading it succeeds, and it is the one value that may not be looked at:
`isWithinRange` asks whether a value can be looked at to its last leaf.
-/
import Multipage.Number.Binary

namespace Multipage

set_option autoImplicit false

inductive Toml where
  | string (t : Text)
  | integer (i : Int)
  | float (x : Binary)
  | boolean (b : Bool)
  /-- A date, a time or both, as written. -/
  | dateTime (t : Text)
  /-- A number that no number of the format stands for. -/
  | beyondRange
  | array (items : List Toml)
  | table (members : List (Text × Toml))

namespace Toml

mutual

/-- Whether every number in a value can be represented. -/
def isWithinRange : Toml → Bool
  | .beyondRange => false
  | .array items => areWithinRange items
  | .table members => membersAreWithinRange members
  | .string _ | .integer _ | .float _ | .boolean _ | .dateTime _ => true

/-- `isWithinRange` of all items. -/
def areWithinRange : List Toml → Bool
  | [] => true
  | item :: rest => item.isWithinRange && areWithinRange rest

/-- `isWithinRange` of the values of all members. -/
def membersAreWithinRange : List (Text × Toml) → Bool
  | [] => true
  | (_, value) :: rest => value.isWithinRange && membersAreWithinRange rest

end

end Toml
end Multipage
