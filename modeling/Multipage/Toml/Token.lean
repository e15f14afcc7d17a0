/-
# Multipage.Toml.Token -- a TOML document cut into tokens

The cut needs no context: a quote starts a string, a hash a comment, and what is neither a
sign, a blank nor a line end is part of a bare run.  Comments leave no token.  A string token
holds the characters that its writing stands for.

Control characters other than the tab are refused in strings and comments, and a carriage
return is refused wherever no line feed follows it.
-/
import Multipage.Text.Basic

namespace Multipage.Toml

set_option autoImplicit false

inductive Token where
  /-- One of `.`, `=`, `,` and the square and curly brackets. -/
  | sign (c : Char)
  /-- A run of spaces and tabs. -/
  | blank (t : Text)
  | lineEnd
  /-- A string on one line. -/
  | quoted (t : Text)
  /-- A string between triple quotes. -/
  | block (t : Text)
  /-- A run of characters that need no quotes. -/
  | bare (t : Text)
  deriving DecidableEq

namespace Token

def isSign (c : Char) : Bool := [ '.', '=', ',', '[', ']', '\x7b', '\x7d' ].contains c

def isSpace (c : Char) : Bool := c == ' ' || c == '\t'

/-- The apostrophe, which encloses strings that are taken as they are written. -/
def apostrophe : Char := '\x27'

def isBare (c : Char) : Bool :=
  !(isSign c || isSpace c || c == '\n' || c == '\r' || c == '#' || c == '"' || c == apostrophe)

/-- A character that may stand in strings and comments. -/
def isContent (c : Char) : Bool := c == '\t' || (0x20 ≤ c.toNat && c.toNat != 0x7F)

/-- What follows a line end, when `t` begins with one. -/
def afterLineEnd? : Text → Option Text
  | '\n' :: rest => some rest
  | '\r' :: '\n' :: rest => some rest
  | _ => none

/-- `t` without the spaces, tabs and line ends at its start. -/
def skipSpaceLines : Text → Text
  | ' ' :: rest | '\t' :: rest | '\n' :: rest | '\r' :: '\n' :: rest => skipSpaceLines rest
  | rest => rest

/-! ## Escapes -/

/-- Read a code point of so many hexadecimal digits. -/
def readCodePoint (count : Nat) (t : Text) : Option (Char × Text) := do
  let digits := t.take count
  if digits.length < count then none
  else
    let n ← Text.hexNumber? digits
    if n.isValidChar then some (Char.ofNat n, t.drop count) else none

/-- Read what follows a backslash. -/
def readEscape : Text → Option (Char × Text)
  | 'b' :: rest => some ('\x08', rest)
  | 't' :: rest => some ('\t', rest)
  | 'n' :: rest => some ('\n', rest)
  | 'f' :: rest => some ('\x0c', rest)
  | 'r' :: rest => some ('\r', rest)
  | 'e' :: rest => some ('\x1b', rest)
  | '"' :: rest => some ('"', rest)
  | '\\' :: rest => some ('\\', rest)
  | 'x' :: rest => readCodePoint 2 rest
  | 'u' :: rest => readCodePoint 4 rest
  | 'U' :: rest => readCodePoint 8 rest
  | _ => none

/-- What follows a backslash that ends a line: the next character that is neither a blank nor
a line end. -/
def afterContinuation? (t : Text) : Option Text :=
  (afterLineEnd? (t.dropWhile isSpace)).map skipSpaceLines

/-! ## Strings

Each reader starts behind the opening quotes and gives the string and what follows it.  Where
there is fuel, the length of the text is enough: a step reads at least one character. -/

/-- Put characters before what a reader gives. -/
def before (characters : Text) (reading : Option (Text × Text)) : Option (Text × Text) :=
  reading.map fun (t, rest) => (characters ++ t, rest)

/-- Read a string on one line. -/
def readQuoted : Nat → Text → Option (Text × Text)
  | 0, _ => none
  | _ + 1, [] => none
  | _ + 1, '"' :: rest => some ([], rest)
  | fuel + 1, '\\' :: rest => do
      let (c, rest) ← readEscape rest
      before [c] (readQuoted fuel rest)
  | fuel + 1, c :: rest => if isContent c then before [c] (readQuoted fuel rest) else none

/-- Read a string on one line that is taken as it is written. -/
def readLiteral (t : Text) : Option (Text × Text) :=
  let content := t.takeWhile (· ≠ apostrophe)
  match t.dropWhile (· ≠ apostrophe) with
  | _ :: rest => if content.all isContent then some (content, rest) else none
  | [] => none

/-- The closing triple of `quote` at the start of `t`: up to two more quotes before it belong
to the string. -/
def closing? (quote : Char) (t : Text) : Option (Text × Text) :=
  let count := (t.takeWhile (· = quote)).length
  if count < 3 then none
  else
    let kept := min count 5 - 3
    some (List.replicate kept quote, t.drop (kept + 3))

/-- Read a string between triple quotes. -/
def readBlock : Nat → Text → Option (Text × Text)
  | 0, _ => none
  | _ + 1, [] => none
  | fuel + 1, '\\' :: rest =>
      match afterContinuation? rest with
      | some rest => readBlock fuel rest
      | none => do
          let (c, rest) ← readEscape rest
          before [c] (readBlock fuel rest)
  | fuel + 1, '\r' :: '\n' :: rest => before ['\r', '\n'] (readBlock fuel rest)
  | fuel + 1, c :: rest =>
      match closing? '"' (c :: rest) with
      | some reading => some reading
      | none =>
          if isContent c || c == '\n' then before [c] (readBlock fuel rest) else none

/-- Read a string between triple apostrophes. -/
def readLiteralBlock : Text → Option (Text × Text)
  | [] => none
  | '\r' :: '\n' :: rest => before ['\r', '\n'] (readLiteralBlock rest)
  | c :: rest =>
      match closing? apostrophe (c :: rest) with
      | some reading => some reading
      | none =>
          if isContent c || c == '\n' then before [c] (readLiteralBlock rest) else none

/-- A block without the line end that it may start with. -/
def dropLineEnd (t : Text) : Text := (afterLineEnd? t).getD t

/-! ## Tokens -/

/-- Read what starts with `c`: a token, or none for a comment. -/
def next (c : Char) (rest : Text) : Option (Option Token × Text) :=
  let t := c :: rest
  if isSign c then some (some (.sign c), rest)
  else if isSpace c then some (some (.blank (t.takeWhile isSpace)), t.dropWhile isSpace)
  else if c = '#' then
    let ends := fun (d : Char) => d = '\n' ∨ d = '\r'
    if (rest.takeWhile fun d => !ends d).all isContent then
      some (none, rest.dropWhile fun d => !ends d)
    else none
  else if c = '"' then
    match rest with
    | '"' :: '"' :: rest =>
        (readBlock (rest.length + 1) (dropLineEnd rest)).map fun (s, rest) =>
          (some (.block s), rest)
    | rest => (readQuoted (rest.length + 1) rest).map fun (s, rest) => (some (.quoted s), rest)
  else if c = apostrophe then
    match rest with
    | '\x27' :: '\x27' :: rest =>
        (readLiteralBlock (dropLineEnd rest)).map fun (s, rest) => (some (.block s), rest)
    | rest => (readLiteral rest).map fun (s, rest) => (some (.quoted s), rest)
  else if isBare c then some (some (.bare (t.takeWhile isBare)), t.dropWhile isBare)
  else (afterLineEnd? t).map fun rest => (some .lineEnd, rest)

/-- Read tokens to the end, one or a comment for each unit of fuel. -/
def scan : Nat → Text → Option (List Token)
  | _, [] => some []
  | 0, _ :: _ => none
  | fuel + 1, c :: rest => do
      let (token, rest) ← next c rest
      let tokens ← scan fuel rest
      some (token.toList ++ tokens)

/-- The tokens of a document, unless some part of it is none. -/
def ofText? (t : Text) : Option (List Token) := scan t.length t

end Token
end Multipage.Toml
