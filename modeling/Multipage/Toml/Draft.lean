/-
# Multipage.Toml.Draft -- a table while assignments and headers add to it

A name is given a value once.  Who may add to a table depends on how it came to be
(`Origin`): one with a header of its own is added to under that header only, one that a header
has only passed through may still get a header, one that dotted keys made is added to by dotted
keys of the same table, and a value in brackets is finished.  A header or a dotted key that
passes through an array of tables goes to its last table.

* `assign` -- give a dotted key a value;
* `within` -- change the table that the path of a header leads to;
* `openTable`, `openElement` -- add what stands under a header, as a table or as a further
  table of an array.
-/
import Multipage.Toml.Value

namespace Multipage.Toml

set_option autoImplicit false

/-- How a table came to be. -/
inductive Origin where
  /-- It has a header. -/
  | declared
  /-- A header has passed through it. -/
  | implied
  /-- A dotted key has passed through it. -/
  | dotted
  deriving DecidableEq

/-- What a name of a table in the making stands for. -/
inductive Draft where
  /-- A finished value. -/
  | finished (value : Toml)
  | table (origin : Origin) (members : List (Text × Draft))
  /-- An array of tables, the last first. -/
  | elements (tables : List (List (Text × Draft)))

namespace Draft

/-- The names of a table in the making, in the order in which they came up. -/
abbrev Members := List (Text × Draft)

/-- Let a name that is there stand for something else. -/
def update (name : Text) (draft : Draft) (members : Members) : Members :=
  members.map fun (other, held) => (other, if other = name then draft else held)

/-- Give a key its value: the tables that it leads through, its last name and the value.  The
last of those tables has to be one that dotted keys made. -/
def assign : List Text → Text → Toml → Members → Option Members
  | [], last, value, members =>
      if (members.lookup last).isSome then none else some (members ++ [(last, .finished value)])
  | name :: path, last, value, members =>
      match members.lookup name with
      | none => (assign path last value []).map fun inner =>
          members ++ [(name, .table .dotted inner)]
      | some (.table origin inner) =>
          if origin = .dotted ∨ (origin = .implied ∧ path ≠ []) then
            (assign path last value inner).map fun inner =>
              update name (.table origin inner) members
          else none
      | some (.elements (latest :: older)) =>
          if path = [] then none
          else (assign path last value latest).map fun latest =>
            update name (.elements (latest :: older)) members
      | some (.elements []) | some (.finished _) => none

/-- Change the table that a path leads to, making the tables that are not there. -/
def within : List Text → (Members → Option Members) → Members → Option Members
  | [], change, members => change members
  | name :: path, change, members =>
      match members.lookup name with
      | none => (within path change []).map fun inner =>
          members ++ [(name, .table .implied inner)]
      | some (.table origin inner) => (within path change inner).map fun inner =>
          update name (.table origin inner) members
      | some (.elements (latest :: older)) => (within path change latest).map fun latest =>
          update name (.elements (latest :: older)) members
      | some (.elements []) | some (.finished _) => none

/-- Fill the table of that name, which has no header so far. -/
def openTable (name : Text) (fill : Members → Option Members) (members : Members) :
    Option Members :=
  match members.lookup name with
  | none => (fill []).map fun inner => members ++ [(name, .table .declared inner)]
  | some (.table .implied inner) =>
      (fill inner).map fun inner => update name (.table .declared inner) members
  | some _ => none

/-- Fill a further table of the array of that name. -/
def openElement (name : Text) (fill : Members → Option Members) (members : Members) :
    Option Members :=
  match members.lookup name with
  | none => (fill []).map fun inner => members ++ [(name, .elements [inner])]
  | some (.elements older) =>
      (fill []).map fun inner => update name (.elements (inner :: older)) members
  | some _ => none

mutual

/-- The value that a draft has come to. -/
def toToml : Draft → Toml
  | .finished value => value
  | .table _ members => .table (membersToToml members)
  | .elements tables => .array (elementsToToml [] tables)

/-- The values of all names. -/
def membersToToml : List (Text × Draft) → List (Text × Toml)
  | [] => []
  | (name, draft) :: rest => (name, draft.toToml) :: membersToToml rest

/-- The tables of an array in front of `later` ones, the last of them given first. -/
def elementsToToml (later : List Toml) : List (List (Text × Draft)) → List Toml
  | [] => later
  | members :: rest => elementsToToml (.table (membersToToml members) :: later) rest

end

end Draft
end Multipage.Toml
