/-
# Multipage.Template.Grammar -- tokens read as statements

From loosest to tightest an expression is a choice (`yes if test else no`), `or`, `and`, `not`,
a comparison or `in`, `+` and `-`, `~`, `*` and `/` and `//` and `%`, `**`, and a signed
primary followed by members, items and calls and then by filters and tests.  Operators of one
level group to the left.

Every reader takes the tokens and gives what it has read and the tokens that follow.  The fuel
is a bound on the depth of the readers' calls: between two tokens they go less than sixteen
deep.
-/
import Multipage.Template.Token
import Multipage.Template.Tree

namespace Multipage.Template

set_option autoImplicit false

namespace Grammar

abbrev Tokens := List Token

def fault {α : Type} : Except TemplateFault α := .error .syntaxError

/-- Pass over a token that has to be there. -/
def expect (token : Token) : Tokens → Except TemplateFault Tokens
  | first :: rest => if first = token then .ok rest else fault
  | [] => fault

/-- A name as a token. -/
def word (s : String) : Token := .name s.toList

/-- Read a name. -/
def readName : Tokens → Except TemplateFault (Text × Tokens)
  | .name t :: rest => .ok (t, rest)
  | _ => fault

/-- The operators of the levels that group to the left. -/
inductive Level where
  | either
  | both
  | not
  | compare
  | sum
  | join
  | product
  | power
  | unary

/-- The next tighter level. -/
def Level.tighter : Level → Level
  | .either => .both
  | .both => .not
  | .not => .compare
  | .compare => .sum
  | .sum => .join
  | .join => .product
  | .product => .power
  | .power => .unary
  | .unary => .unary

/-- How an operator puts two expressions together. -/
abbrev Joining := Expr → Expr → Expr

/-- The operator of that level that a sign stands for. -/
def signOperator? (level : Level) (s : String) : Option Operator :=
  match level with
  | .compare => [("==", Operator.eq), ("!=", .ne), ("<", .lt), ("<=", .le), (">", .gt),
      (">=", .ge)].lookup s
  | .sum => [("+", Operator.add), ("-", .sub)].lookup s
  | .join => [("~", Operator.concat)].lookup s
  | .product => [("*", Operator.mul), ("/", .div), ("//", .floorDiv), ("%", .rem)].lookup s
  | .power => [("**", Operator.pow)].lookup s
  | _ => none

/-- Read an operator of that level. -/
def readOperator? (level : Level) : Tokens → Except TemplateFault (Option (Joining × Tokens))
  | .sign s :: rest =>
      .ok ((signOperator? level s).map fun op => (Expr.operate op, rest))
  | .name t :: rest =>
      match level with
      | .either => .ok (if t = "or".toList then some (.either, rest) else none)
      | .both => .ok (if t = "and".toList then some (.both, rest) else none)
      | .compare =>
          if t = "in".toList then .ok (some (.operate .isIn, rest))
          else if t = "not".toList then
            (expect (word "in") rest).map fun rest =>
              some (fun a b => .not (.operate .isIn a b), rest)
          else .ok none
      | _ => .ok none
  | _ => .ok none

/-- The expression that a name stands for. -/
def ofName (t : Text) : Expr :=
  if t = "true".toList ∨ t = "True".toList then .constant (.bool true)
  else if t = "false".toList ∨ t = "False".toList then .constant (.bool false)
  else if t = "none".toList ∨ t = "None".toList then .constant .nothing
  else .variable t

/-- Put arguments behind an expression. -/
def ofCall (e : Expr) (arguments : List (Option Text × Expr)) : Expr :=
  match e with
  | .variable name => .call name arguments
  | .member of name => .callMethod of name arguments
  | e => .callValue e arguments

/-- Whether the argument of a test may start here without a bracket. -/
def startsTestArgument : Tokens → Bool
  | .name t :: _ => !(["and".toList, "or".toList, "else".toList, "is".toList].contains t)
  | .string _ :: _ | .integer _ :: _ | .float _ :: _ => true
  | .sign s :: _ => ["+", "-", "[", "\x7b"].contains s
  | _ => false

mutual

/-- Read an expression with its choices. -/
def readExpr : Nat → Tokens → Except TemplateFault (Expr × Tokens)
  | 0, _ => fault
  | fuel + 1, ts => do
      let (e, ts) ← readLevel fuel .either ts
      readChoices fuel e ts

/-- Read the choices that follow an expression. -/
def readChoices : Nat → Expr → Tokens → Except TemplateFault (Expr × Tokens)
  | 0, _, _ => fault
  | fuel + 1, e, ts =>
      match ts with
      | .name t :: rest =>
          if t = "if".toList then do
            let (test, ts) ← readLevel fuel .either rest
            match ts with
            | .name t :: rest =>
                if t = "else".toList then do
                  let (no, ts) ← readExpr fuel rest
                  readChoices fuel (.choose test e no) ts
                else readChoices fuel (.choose test e (.constant .undefined)) ts
            | _ => readChoices fuel (.choose test e (.constant .undefined)) ts
          else .ok (e, ts)
      | _ => .ok (e, ts)

/-- Read an expression of a level. -/
def readLevel : Nat → Level → Tokens → Except TemplateFault (Expr × Tokens)
  | 0, _, _ => fault
  | fuel + 1, level, ts =>
      match level with
      | .unary => do
          let (e, ts) ← readSigned fuel ts
          let (e, ts) ← readPostfix fuel e ts
          readFilters fuel e ts
      | .not =>
          match ts with
          | .name t :: rest =>
              if t = "not".toList then do
                let (e, ts) ← readLevel fuel .not rest
                .ok (.not e, ts)
              else readLevel fuel .compare ts
          | _ => readLevel fuel .compare ts
      | level => do
          let (e, ts) ← readLevel fuel level.tighter ts
          readOperations fuel level e ts

/-- Read the operators of a level that follow an expression, with their operands. -/
def readOperations : Nat → Level → Expr → Tokens → Except TemplateFault (Expr × Tokens)
  | 0, _, _, _ => fault
  | fuel + 1, level, e, ts => do
      match ← readOperator? level ts with
      | none => .ok (e, ts)
      | some (joining, ts) => do
          let (right, ts) ← readLevel fuel level.tighter ts
          readOperations fuel level (joining e right) ts

/-- Read a primary with the minus signs before it. -/
def readSigned : Nat → Tokens → Except TemplateFault (Expr × Tokens)
  | 0, _ => fault
  | fuel + 1, .sign "-" :: rest => do
      let (e, ts) ← readSigned fuel rest
      .ok (.negate e, ts)
  | fuel + 1, ts => readPrimary fuel ts

/-- Read a name, a literal or something in brackets. -/
def readPrimary : Nat → Tokens → Except TemplateFault (Expr × Tokens)
  | 0, _ => fault
  | fuel + 1, ts =>
      match ts with
      | .name t :: rest => .ok (ofName t, rest)
      | .string t :: rest => .ok (.constant (.string t), rest)
      | .integer n :: rest => .ok (.constant (.integer n), rest)
      | .float x :: rest => .ok (.constant (.float x), rest)
      | .sign "[" :: rest => do
          let (items, ts) ← readItems fuel "]" rest
          .ok (.list items, ts)
      | .sign "\x7b" :: rest => do
          let (entries, ts) ← readEntries fuel rest
          .ok (.map entries, ts)
      | .sign "(" :: .sign ")" :: rest => .ok (.list [], rest)
      | .sign "(" :: rest => do
          let (e, ts) ← readExpr fuel rest
          match ts with
          | .sign "," :: rest => do
              let (items, ts) ← readItems fuel ")" rest
              .ok (.list (e :: items), ts)
          | ts => do .ok (e, ← expect (.sign ")") ts)
      | _ => fault

/-- Read expressions with commas between them up to a closing bracket. -/
def readItems : Nat → String → Tokens → Except TemplateFault (List Expr × Tokens)
  | 0, _, _ => fault
  | fuel + 1, closing, ts =>
      match ts with
      | .sign s :: rest =>
          if s = closing then .ok ([], rest) else readItemsFrom fuel closing ts
      | _ => readItemsFrom fuel closing ts

/-- Read at least one expression and those that follow it. -/
def readItemsFrom : Nat → String → Tokens → Except TemplateFault (List Expr × Tokens)
  | 0, _, _ => fault
  | fuel + 1, closing, ts => do
      let (e, ts) ← readExpr fuel ts
      match ts with
      | .sign "," :: rest => do
          let (items, ts) ← readItems fuel closing rest
          .ok (e :: items, ts)
      | ts => do .ok ([e], ← expect (.sign closing) ts)

/-- Read keys and values up to a closing brace. -/
def readEntries : Nat → Tokens → Except TemplateFault ((List (Expr × Expr)) × Tokens)
  | 0, _ => fault
  | fuel + 1, ts =>
      match ts with
      | .sign "\x7d" :: rest => .ok ([], rest)
      | ts => do
          let (key, ts) ← readExpr fuel ts
          let ts ← expect (.sign ":") ts
          let (value, ts) ← readExpr fuel ts
          match ts with
          | .sign "," :: rest => do
              let (entries, ts) ← readEntries fuel rest
              .ok ((key, value) :: entries, ts)
          | ts => do .ok ([(key, value)], ← expect (.sign "\x7d") ts)

/-- Read arguments up to a closing bracket. -/
def readArguments : Nat → Tokens → Except TemplateFault ((List (Option Text × Expr)) × Tokens)
  | 0, _ => fault
  | fuel + 1, ts =>
      match ts with
      | .sign ")" :: rest => .ok ([], rest)
      | ts => do
          let (name, ts) :=
            match ts with
            | .name t :: .sign "=" :: rest => (some t, rest)
            | ts => (none, ts)
          let (e, ts) ← readExpr fuel ts
          match ts with
          | .sign "," :: rest => do
              let (more, ts) ← readArguments fuel rest
              .ok ((name, e) :: more, ts)
          | ts => do .ok ([(name, e)], ← expect (.sign ")") ts)

/-- Read the members, items and calls that follow an expression. -/
def readPostfix : Nat → Expr → Tokens → Except TemplateFault (Expr × Tokens)
  | 0, _, _ => fault
  | fuel + 1, e, ts =>
      match ts with
      | .sign "." :: rest => do
          let (name, ts) ← readName rest
          readPostfix fuel (.member e name) ts
      | .sign "[" :: rest => do
          let (index, ts) ← readExpr fuel rest
          readPostfix fuel (.item e index) (← expect (.sign "]") ts)
      | .sign "(" :: rest => do
          let (arguments, ts) ← readArguments fuel rest
          readPostfix fuel (ofCall e arguments) ts
      | ts => .ok (e, ts)

/-- Read the filters and tests that follow an expression. -/
def readFilters : Nat → Expr → Tokens → Except TemplateFault (Expr × Tokens)
  | 0, _, _ => fault
  | fuel + 1, e, ts =>
      match ts with
      | .sign "|" :: rest => do
          let (name, ts) ← readName rest
          match ts with
          | .sign "(" :: rest => do
              let (arguments, ts) ← readArguments fuel rest
              readFilters fuel (.filter name e arguments) ts
          | ts => readFilters fuel (.filter name e []) ts
      | .name t :: rest =>
          if t = "is".toList then do
            let (negated, ts) :=
              match rest with
              | .name t :: more => if t = "not".toList then (true, more) else (false, rest)
              | _ => (false, rest)
            let (name, ts) ← readName ts
            let (arguments, ts) ← readTestArguments fuel ts
            let tested := Expr.test name e arguments
            readFilters fuel (if negated then .not tested else tested) ts
          else .ok (e, ts)
      | ts => .ok (e, ts)

/-- Read the arguments of a test: in brackets, or one without them. -/
def readTestArguments : Nat → Tokens → Except TemplateFault ((List (Option Text × Expr)) × Tokens)
  | 0, _ => fault
  | fuel + 1, ts =>
      match ts with
      | .sign "(" :: rest => readArguments fuel rest
      | ts =>
          if startsTestArgument ts then do
            let (e, ts) ← readSigned fuel ts
            let (e, ts) ← readPostfix fuel e ts
            .ok ([(none, e)], ts)
          else .ok ([], ts)

end

/-- Names that cannot be bound. -/
def reserved : List Text :=
  ["true", "True", "false", "False", "none", "None", "loop", "self"]

/-- Read a name that may be bound. -/
def readBindable (ts : Tokens) : Except TemplateFault (Text × Tokens) := do
  let (name, ts) ← readName ts
  if reserved.contains name then fault else .ok (name, ts)

/-- Whether a list of targets ends here. -/
def endsTargets : Tokens → Bool
  | .sign ")" :: _ | .closeVariable :: _ | .closeBlock :: _ => true
  | .name t :: _ => t == "in".toList
  | _ => false

mutual

/-- Read one target, or several with commas between them. -/
def readTargets : Nat → Tokens → Except TemplateFault (Target × Tokens)
  | 0, _ => fault
  | fuel + 1, ts => do
      if endsTargets ts then .ok (.several [], ts)
      else
        let (first, ts) ← readTarget fuel ts
        match ts with
        | .sign "," :: rest => do
            let (more, ts) ← readMoreTargets fuel rest
            .ok (.several (first :: more), ts)
        | ts => .ok (first, ts)

/-- Read the targets after a comma. -/
def readMoreTargets : Nat → Tokens → Except TemplateFault (List Target × Tokens)
  | 0, _ => fault
  | fuel + 1, ts => do
      if endsTargets ts then .ok ([], ts)
      else
        let (first, ts) ← readTarget fuel ts
        match ts with
        | .sign "," :: rest => do
            let (more, ts) ← readMoreTargets fuel rest
            .ok (first :: more, ts)
        | ts => .ok ([first], ts)

/-- Read a name, or targets in brackets. -/
def readTarget : Nat → Tokens → Except TemplateFault (Target × Tokens)
  | 0, _ => fault
  | fuel + 1, ts =>
      match ts with
      | .sign "(" :: rest => do
          let (targets, ts) ← readTargets fuel rest
          .ok (targets, ← expect (.sign ")") ts)
      | ts => do
          let (name, ts) ← readBindable ts
          .ok (.name name, ts)

end

/-- A depth that no reading of these tokens exceeds. -/
def depth (ts : Tokens) : Nat := 16 * (ts.length + 1)

/-- Read the members after an assigned name. -/
def readMembers : Expr → Tokens → Expr × Option Text × Tokens
  | e, .sign "." :: .name t :: rest =>
      let (inner, last, rest) := readMembers (.member e t) rest
      match last with
      | none => (e, some t, rest)
      | some last => (inner, some last, rest)
  | e, ts => (e, none, ts)

mutual

/-- Read statements up to a block that starts with one of the words in `ends`, or to the end.
The word is left to be read. -/
def readStatements : Nat → List Text → Tokens → Except TemplateFault (List Statement × Tokens)
  | 0, _, _ => fault
  | fuel + 1, ends, ts =>
      match ts with
      | [] => .ok ([], [])
      | .data t :: rest => do
          let (more, ts) ← readStatements fuel ends rest
          .ok (.data t :: more, ts)
      | .openVariable :: rest => do
          let (e, ts) ← readExpr (depth rest) rest
          let ts ← expect .closeVariable ts
          let (more, ts) ← readStatements fuel ends ts
          .ok (.emit e :: more, ts)
      | .openBlock :: .name t :: rest =>
          if ends.contains t then .ok ([], .name t :: rest)
          else do
            let (statement, ts) ← readStatement fuel t rest
            let ts ← expect .closeBlock ts
            let (more, ts) ← readStatements fuel ends ts
            .ok (statement :: more, ts)
      | _ => fault

/-- Read the statement that a word starts, up to the end of its last block. -/
def readStatement : Nat → Text → Tokens → Except TemplateFault (Statement × Tokens)
  | 0, _, _ => fault
  | fuel + 1, t, ts =>
      if t = "if".toList then readChoice fuel ts
      else if t = "for".toList then do
        let (target, ts) ← readTargets (depth ts) ts
        let ts ← expect (word "in") ts
        let (items, ts) ← readLevel (depth ts) .either ts
        let (keep, ts) ←
          match ts with
          | .name t :: rest =>
              if t = "if".toList then do
                let (e, ts) ← readExpr (depth rest) rest
                .ok (some e, ts)
              else .ok (none, ts)
          | ts => .ok (none, ts)
        let ts ← expect .closeBlock ts
        let (body, ts) ← readStatements fuel ["endfor", "else"] ts
        match ts with
        | .name t :: rest =>
            if t = "else".toList then do
              let ts ← expect .closeBlock rest
              let (otherwise, ts) ← readStatements fuel ["endfor"] ts
              .ok (.loop target items keep body otherwise, ts.drop 1)
            else .ok (.loop target items keep body [], rest)
        | ts => .ok (.loop target items keep body [], ts)
      else if t = "set".toList then readAssignment fuel ts
      else if t = "include".toList then do
        let (names, ts) ← readExpr (depth ts) ts
        match ts with
        | .name t :: rest =>
            if t = "ignore".toList then do
              let ts ← expect (word "missing") rest
              .ok (.embed names true, ts)
            else .ok (.embed names false, ts)
        | ts => .ok (.embed names false, ts)
      else fault

/-- Read a condition and what depends on it. -/
def readChoice : Nat → Tokens → Except TemplateFault (Statement × Tokens)
  | 0, _ => fault
  | fuel + 1, ts => do
      let (test, ts) ← readLevel (depth ts) .either ts
      let ts ← expect .closeBlock ts
      let (yes, ts) ← readStatements fuel ["endif", "else", "elif"] ts
      match ts with
      | .name t :: rest =>
          if t = "else".toList then do
            let ts ← expect .closeBlock rest
            let (no, ts) ← readStatements fuel ["endif"] ts
            .ok (.choose test yes no, ts.drop 1)
          else if t = "elif".toList then do
            let (no, ts) ← readChoice fuel rest
            .ok (.choose test yes [no], ts)
          else .ok (.choose test yes [], rest)
      | ts => .ok (.choose test yes [], ts)

/-- Read what is bound, and the expression or the body that it is bound to. -/
def readAssignment : Nat → Tokens → Except TemplateFault (Statement × Tokens)
  | 0, _ => fault
  | fuel + 1, ts =>
      match ts with
      | .sign "(" :: rest => do
          let (target, ts) ← readTargets (depth rest) rest
          let ts ← expect (.sign ")") ts
          let ts ← expect (.sign "=") ts
          let (e, ts) ← readExpr (depth ts) ts
          .ok (.assign target e, ts)
      | ts => do
          let (name, ts) ← readBindable ts
          let (of, last, ts) := readMembers (.variable name) ts
          match ts, last with
          | .sign "=" :: rest, none => do
              let (e, ts) ← readExpr (depth rest) rest
              .ok (.assign (.name name) e, ts)
          | .sign "=" :: rest, some last => do
              let (e, ts) ← readExpr (depth rest) rest
              .ok (.assignMember of last e, ts)
          | ts, none => do
              let (filtered, ts) ← readFilters (depth ts) (.variable captured) ts
              let ts ← expect .closeBlock ts
              let (body, ts) ← readStatements fuel ["endset"] ts
              .ok (.capture name filtered body, ts.drop 1)
          | _, some _ => fault

end

/-- Read all statements of a template. -/
def statements (t : Text) : Except TemplateFault (List Statement) := do
  let ts ← Token.ofTemplate t
  let (statements, _) ← readStatements (4 * (ts.length + 1)) [] ts
  .ok statements

end Grammar
end Multipage.Template
