/-
# Multipage.Toml.Document -- a TOML document and the table it describes

A document is lines: headers, assignments and blank ones.  What stands under a header goes into
its table, what stands before the first header into the outermost one.  Arrays and inline
tables may run over several lines, with comments and with a comma behind the last item.

Values are nested at most `maxDepth` deep, and a key has at most `maxNames` names.

* `Toml.ofText?` -- the members of the outermost table, unless the text is no document.
-/
import Multipage.Toml.Draft
import Multipage.Toml.Scalar

namespace Multipage.Toml

set_option autoImplicit false

/-- A dotted key: the names of the tables it leads through, and its last name. -/
structure Key where
  path : List Text
  last : Text
  deriving DecidableEq

/-- A line that is not blank. -/
inductive Statement where
  | assignment (key : Key) (value : Toml)
  /-- A header; `isElement` when it starts a further table of an array. -/
  | header (isElement : Bool) (key : Key)

namespace Document

/-- How deep arrays and inline tables are nested at most. -/
def maxDepth : Nat := 80

/-- How many names a key has at most. -/
def maxNames : Nat := 80

abbrev Tokens := List Token

def skipBlanks : Tokens → Tokens
  | .blank _ :: rest => skipBlanks rest
  | rest => rest

/-- Pass over blanks and line ends. -/
def skipLines : Tokens → Tokens
  | .blank _ :: rest | .lineEnd :: rest => skipLines rest
  | rest => rest

/-- Pass over a sign that has to be there. -/
def expect (c : Char) : Tokens → Option Tokens
  | .sign d :: rest => if d = c then some rest else none
  | _ => none

/-! ## Keys -/

/-- A character of a name without quotes. -/
def isNameChar (c : Char) : Bool := c.isAlphanum || c == '-' || c == '_'

/-- Read a name. -/
def readName : Tokens → Option (Text × Tokens)
  | .bare t :: rest => if t.all isNameChar then some (t, rest) else none
  | .quoted t :: rest => some (t, rest)
  | _ => none

/-- Read at most so many names with points between them, and the blanks around them. -/
def readNames : Nat → Tokens → Option (List Text × Tokens)
  | 0, _ => none
  | count + 1, ts => do
      let (name, ts) ← readName (skipBlanks ts)
      match skipBlanks ts with
      | .sign '.' :: rest => do
          let (names, ts) ← readNames count rest
          some (name :: names, ts)
      | ts => some ([name], ts)

/-- Read a key, and the blanks around it. -/
def readKey (ts : Tokens) : Option (Key × Tokens) := do
  let (names, ts) ← readNames maxNames ts
  let last ← names.getLast?
  some (⟨names.dropLast, last⟩, ts)

/-! ## Values -/

/-- The longest start that a value without quotes may have: bare runs and points. -/
def takeBare : Tokens → Text × Tokens
  | .bare t :: rest => let (more, rest) := takeBare rest; (t ++ more, rest)
  | .sign '.' :: rest => let (more, rest) := takeBare rest; ('.' :: more, rest)
  | rest => ([], rest)

/-- Read a value without quotes.  A blank inside it stands between a date and a time. -/
def readBare (ts : Tokens) : Option (Toml × Tokens) := do
  let (t, rest) := takeBare ts
  let (t, rest) :=
    match rest with
    | .blank gap :: .bare first :: rest =>
        let (more, rest) := takeBare (.bare first :: rest)
        (t ++ gap ++ more, rest)
    | rest => (t, rest)
  let value ← Scalar.ofText? t
  some (value, rest)

mutual

/-- Read a value in which at most `depth` brackets are open at a time. -/
def readValue : (fuel depth : Nat) → Tokens → Option (Toml × Tokens)
  | 0, _, _ => none
  | fuel + 1, depth, ts =>
      match ts with
      | .quoted t :: rest | .block t :: rest => some (.string t, rest)
      | .sign '[' :: rest =>
          match depth with
          | 0 => none
          | depth + 1 => do
              let (items, ts) ← readItems fuel depth rest
              some (.array items, ts)
      | .sign '\x7b' :: rest =>
          match depth with
          | 0 => none
          | depth + 1 => do
              let (members, ts) ← readMembers fuel depth [] rest
              some (.table (Draft.membersToToml members), ts)
      | ts => readBare ts

/-- Read values with commas between them up to a closing bracket. -/
def readItems : (fuel depth : Nat) → Tokens → Option (List Toml × Tokens)
  | 0, _, _ => none
  | fuel + 1, depth, ts =>
      match skipLines ts with
      | .sign ']' :: rest => some ([], rest)
      | ts => do
          let (value, ts) ← readValue fuel depth ts
          match skipLines ts with
          | .sign ',' :: rest => do
              let (items, ts) ← readItems fuel depth rest
              some (value :: items, ts)
          | ts => do some ([value], ← expect ']' ts)

/-- Read assignments with commas between them up to a closing brace, and add them to
`members`. -/
def readMembers : (fuel depth : Nat) → Draft.Members → Tokens → Option (Draft.Members × Tokens)
  | 0, _, _, _ => none
  | fuel + 1, depth, members, ts =>
      match skipLines ts with
      | .sign '\x7d' :: rest => some (members, rest)
      | ts => do
          let (key, ts) ← readKey ts
          let ts ← expect '=' (skipLines ts)
          let (value, ts) ← readValue fuel depth (skipLines ts)
          let members ← Draft.assign key.path key.last value members
          match skipLines ts with
          | .sign ',' :: rest => readMembers fuel depth members rest
          | ts => do some (members, ← expect '\x7d' ts)

end

/-! ## Lines -/

/-- Read a header behind its first bracket. -/
def readHeader : Tokens → Option (Statement × Tokens)
  | .sign '[' :: rest => do
      let (key, ts) ← readKey rest
      some (.header true key, ← expect ']' (← expect ']' ts))
  | ts => do
      let (key, ts) ← readKey ts
      some (.header false key, ← expect ']' ts)

/-- Read an assignment.  Between two tokens the readers of values go at most two deep. -/
def readAssignment (ts : Tokens) : Option (Statement × Tokens) := do
  let (key, ts) ← readKey ts
  let ts ← expect '=' ts
  let (value, ts) ← readValue (2 * ts.length + 2) maxDepth (skipBlanks ts)
  some (.assignment key value, ts)

/-- Read a line that is not blank. -/
def readStatement : Tokens → Option (Statement × Tokens)
  | .sign '[' :: rest => readHeader rest
  | ts => readAssignment ts

/-- Read lines to the end, at most so many that are not blank. -/
def readStatements : Nat → Tokens → Option (List Statement)
  | 0, ts => if (skipLines ts).isEmpty then some [] else none
  | count + 1, ts =>
      match skipLines ts with
      | [] => some []
      | ts => do
          let (statement, ts) ← readStatement ts
          match skipBlanks ts with
          | [] => some [statement]
          | .lineEnd :: rest => (readStatements count rest).map (statement :: ·)
          | _ => none

/-! ## Tables -/

/-- The assignments at the start, and the statements from the first header on. -/
def splitAssignments : List Statement → List (Key × Toml) × List Statement
  | .assignment key value :: rest =>
      let (assignments, headers) := splitAssignments rest
      ((key, value) :: assignments, headers)
  | statements => ([], statements)

/-- Make all assignments. -/
def assignAll (assignments : List (Key × Toml)) (members : Draft.Members) :
    Option Draft.Members :=
  assignments.foldlM (fun members (key, value) => Draft.assign key.path key.last value members)
    members

/-- Add what statements describe.  What stands before the first header is passed over: it is
added with the header before it. -/
def addSections : List Statement → Draft.Members → Option Draft.Members
  | [], members => some members
  | .assignment _ _ :: rest, members => addSections rest members
  | .header isElement key :: rest, members => do
      let fill := assignAll (splitAssignments rest).1
      let enter := if isElement then Draft.openElement else Draft.openTable
      addSections rest (← Draft.within key.path (enter key.last fill) members)

/-- The outermost table. -/
def ofStatements (statements : List Statement) : Option Draft.Members := do
  addSections statements (← assignAll (splitAssignments statements).1 [])

end Document

/-- The mark that a text may begin with to tell the order of its bytes. -/
def byteOrderMark : Char := '\uFEFF'

/-- The members of the outermost table that a document describes. -/
def ofText? (t : Text) : Option (List (Text × Toml)) := do
  let t := if t.head? = some byteOrderMark then t.tail else t
  let tokens ← Token.ofText? t
  let statements ← Document.readStatements tokens.length tokens
  (Document.ofStatements statements).map Draft.membersToToml

end Multipage.Toml
