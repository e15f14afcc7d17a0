/-
# Multipage.Media.Range -- media ranges, and how well one fits a media type

A range is `type/subtype` followed by parameters, `;` before each of them; a lone `*` is
`*/*`.  Blanks around every part are dropped.  A piece without `=` is no parameter.  The
parameter `q` is the quality: the last one counts, and one that is no number from 0 to 1
counts as 1, as does a missing one.

A declared media type is read in the same way, so a type may carry parameters too.

A range covers a type when type and subtype are equal in letters of any case, or a star on
either side.  `fitness` is 100 for an equal type, 10 for an equal subtype and 1 for each
parameter of the type that the range repeats.
-/
import Multipage.Media.Quality
import Multipage.Text.Blank

namespace Multipage

set_option autoImplicit false

/-- One element of an Accept header, or one declared media type. -/
structure MediaRange where
  type : Text
  subtype : Text
  parameters : List (Text × Text)
  quality : Quality
  deriving DecidableEq

namespace MediaRange

/-- Type and subtype, when there are two of them. -/
def names? (t : Text) : Option (Text × Text) :=
  if t = ['*'] then some (['*'], ['*'])
  else
    match Text.splitOnce '/' t with
    | none => none
    | some (type, subtype) =>
        let type := Text.trim type
        let subtype := Text.trim subtype
        if type.isEmpty || subtype.isEmpty then none else some (type, subtype)

/-- Name and value of a parameter. -/
def parameter? (piece : Text) : Option (Text × Text) :=
  (Text.splitOnce '=' piece).map fun (name, value) => (Text.trim name, Text.trim value)

/-- A parameter that gives the quality. -/
def isQuality (parameter : Text × Text) : Bool := parameter.1 == ['q']

/-- The quality among the parameters. -/
def qualityOf (parameters : List (Text × Text)) : Quality :=
  match (parameters.filter isQuality).getLast? with
  | none => .one
  | some (_, value) => (Quality.ofText? value).getD .one

/-- Read one range. -/
def ofText? (t : Text) : Option MediaRange :=
  match t.splitOn ';' with
  | [] => none
  | head :: pieces =>
      (names? (Text.trim head)).map fun (type, subtype) =>
        let parameters := pieces.filterMap parameter?
        { type, subtype
          parameters := parameters.filter fun p => !isQuality p
          quality := qualityOf parameters }

/-- The ranges of an Accept header, in order; elements that are no range are left out. -/
def listOfAccept (accept : Text) : List MediaRange :=
  (((accept.splitOn ',').map Text.trim).filter fun t => !t.isEmpty).filterMap ofText?

/-- The types are equal, whatever the case of their letters. -/
def sameType (a b : MediaRange) : Bool := Text.eqIgnoringCase a.type b.type

/-- The subtypes are equal, whatever the case of their letters. -/
def sameSubtype (a b : MediaRange) : Bool := Text.eqIgnoringCase a.subtype b.subtype

/-- Whether `range` admits `target`. -/
def covers (range target : MediaRange) : Bool :=
  (sameType range target || range.type == ['*'] || target.type == ['*']) &&
    (sameSubtype range target || range.subtype == ['*'] || target.subtype == ['*'])

/-- How closely `range` names `target`. -/
def fitness (range target : MediaRange) : Nat :=
  (if sameType range target then 100 else 0) + (if sameSubtype range target then 10 else 0) +
    target.parameters.countP fun p => range.parameters.contains p

end MediaRange
end Multipage
