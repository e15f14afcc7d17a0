/-
# Multipage.Json.Value -- structured values

What logic pages put into a context and into a body.  A number is a whole number or a 64-bit
floating number, and keeps which of the two it is.  The members of an object are ordered by
name, and a name occurs once: `Members.insert` keeps both.
-/
import Multipage.Number.Binary

namespace Multipage

set_option autoImplicit false

inductive Json where
  | null
  | bool (b : Bool)
  | integer (i : Int)
  | float (x : Binary)
  | string (t : Text)
  | array (items : List Json)
  | object (members : List (Text × Json))

instance : Inhabited Json := ⟨.null⟩

/-- Named values, ordered by the code points of their names. -/
abbrev Members := List (Text × Json)

namespace Members

/-- The value of that name. -/
def get? (members : Members) (name : Text) : Option Json := members.lookup name

/-- Give `name` the value `value`, in the place that the order asks for. -/
def insert (name : Text) (value : Json) : Members → Members
  | [] => [(name, value)]
  | (first, held) :: rest =>
      if name = first then (name, value) :: rest
      else if name < first then (name, value) :: (first, held) :: rest
      else (first, held) :: insert name value rest

/-- Members given in any order; of two with one name the later counts. -/
def ofList (pairs : List (Text × Json)) : Members :=
  pairs.foldl (fun members (name, value) => insert name value members) []

end Members

namespace Json

/-- Whether a value counts as set: false are null, `false`, zero, and the empty string, array
and object. -/
def isTruthy : Json → Bool
  | .null => false
  | .bool b => b
  | .integer i => i != 0
  | .float x => !x.isZero
  | .string t => !t.isEmpty
  | .array items => !items.isEmpty
  | .object members => !members.isEmpty

end Json
end Multipage
