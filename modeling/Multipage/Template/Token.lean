/-
# Multipage.Template.Token -- a template cut into text and the words inside its marks

Outside the marks a template is text, up to the next `{{`, `{%` or `{#`.  A minus inside a mark
drops the blanks next to it on the outside, a plus keeps them.  A comment leaves nothing, and
between `{% raw %}` and `{% endraw %}` everything is text.

Inside a mark blanks are passed over and the text is cut into names, literals and signs.  The
closing mark is looked for only outside brackets.
-/
import Multipage.Context
import Multipage.Number.Decimal
import Multipage.Text.Blank

namespace Multipage.Template

set_option autoImplicit false

inductive Token where
  | data (t : Text)
  | openVariable
  | closeVariable
  | openBlock
  | closeBlock
  | name (t : Text)
  | string (t : Text)
  | integer (n : Nat)
  | float (x : Binary)
  | sign (s : String)
  deriving DecidableEq

namespace Token

/-- What a mark asks for about the blanks on its outside. -/
inductive Margin where
  | keep
  | drop
  deriving DecidableEq

/-- The margin that a character next to a mark asks for. -/
def Margin.of (c : Option Char) : Margin := if c = some '-' then .drop else .keep

/-- Cut the margin sign off the inside of an opening mark. -/
def splitMargin : Text → Margin × Text
  | '-' :: rest => (.drop, rest)
  | '+' :: rest => (.keep, rest)
  | rest => (.keep, rest)

/-- A blank inside a mark. -/
def isInnerBlank (c : Char) : Bool :=
  c == ' ' || c == '\t' || c == '\n' || c == '\r' || c == '\x0c'

def skipBlanks (t : Text) : Text := t.dropWhile isInnerBlank

/-- The three opening marks. -/
inductive Opening where
  | variable
  | block
  | comment

/-- The text before the next opening mark, the mark, and what follows it. -/
def splitOpening : Text → Text × Option (Opening × Text)
  | '\x7b' :: '\x7b' :: rest => ([], some (.variable, rest))
  | '\x7b' :: '%' :: rest => ([], some (.block, rest))
  | '\x7b' :: '#' :: rest => ([], some (.comment, rest))
  | c :: rest =>
      let (before, found) := splitOpening rest
      (c :: before, found)
  | [] => ([], none)

/-- The text before the first `#` and closing brace in a row, and what follows them. -/
def splitCommentEnd : Text → Option (Text × Text)
  | '#' :: '\x7d' :: rest => some ([], rest)
  | c :: rest => (splitCommentEnd rest).map fun (before, after) => (c :: before, after)
  | [] => none

/-- Read the rest of a block that holds one word only: the margin of its end, and what
follows. -/
def bareBlock? (word inside : Text) : Option (Margin × Text) :=
  (Text.dropStart? word (skipBlanks inside)).bind fun rest =>
    let (margin, rest) := splitMargin (skipBlanks rest)
    (Text.dropStart? ['%', '\x7d'] rest).map fun rest => (margin, rest)

/-- The text up to the block that ends raw text, the margins on either side of that block, and
what follows it. -/
def splitRawEnd : Text → Option (Text × Margin × Margin × Text)
  | [] => none
  | c :: rest =>
      let ending :=
        match c :: rest with
        | '\x7b' :: '%' :: inside =>
            let (before, word) := splitMargin inside
            (bareBlock? "endraw" word).map fun (after, rest) => (before, after, rest)
        | _ => none
      match ending with
      | some (before, after, rest) => some ([], before, after, rest)
      | none => (splitRawEnd rest).map fun (t, more) => (c :: t, more)

/-- Drop the blanks at the end of a text where the margin says so. -/
def Margin.cutEnd (margin : Margin) (t : Text) : Text :=
  if margin = .drop then Text.trimEndBy Text.isBlank t else t

/-- Drop the blanks at the start of a text where the margin says so. -/
def Margin.cutStart (margin : Margin) (t : Text) : Text :=
  if margin = .drop then Text.trimStartBy Text.isBlank t else t

/-- Text as a token; no text is no token. -/
def ofData (t : Text) : List Token := if t.isEmpty then [] else [.data t]

/-- A character that a name may start with. -/
def startsName (c : Char) : Bool := c.isAlpha || c == '_'

/-- A character of a name. -/
def isNameChar (c : Char) : Bool := c.isAlphanum || c == '_'

/-- Where the reading of a number stands. -/
inductive NumberState where
  | whole
  | fraction
  | exponent
  | exponentDigits
  deriving DecidableEq

/-- Cut a number off the start of a text. -/
def splitNumber (state : NumberState) : Text → NumberState × Text × Text
  | [] => (state, [], [])
  | c :: rest =>
      let next :=
        if c == '.' && state == .whole then some .fraction
        else if (c == 'e' || c == 'E') && (state == .whole || state == .fraction) then
          some .exponent
        else if (c == '+' || c == '-') && state == .exponent then some .exponentDigits
        else if c.isDigit then some (if state == .exponent then .exponentDigits else state)
        else if c == '_' then some state
        else none
      match next with
      | none => (state, [], c :: rest)
      | some state =>
          let (last, digits, rest) := splitNumber state rest
          (last, c :: digits, rest)

/-- The digits that a prefix of a whole number announces. -/
def radix? : Text → Option (Nat × Text)
  | '0' :: c :: rest =>
      if c = 'b' ∨ c = 'B' then some (2, rest)
      else if c = 'o' ∨ c = 'O' then some (8, rest)
      else if c = 'x' ∨ c = 'X' then some (16, rest)
      else none
  | _ => none

/-- The value of a digit in some radix. -/
def digitValue? (radix : Nat) (c : Char) : Option Nat :=
  let value :=
    if c.isDigit then c.toNat - '0'.toNat
    else if 'a' ≤ c ∧ c ≤ 'f' then c.toNat - 'a'.toNat + 10
    else if 'A' ≤ c ∧ c ≤ 'F' then c.toNat - 'A'.toNat + 10
    else radix
  if value < radix then some value else none

/-- The value of digits in some radix, as far as it fits into 128 bits. -/
def wholeNumber? (radix : Nat) (digits : Text) : Option Nat :=
  if digits.isEmpty then none
  else
    ((digits.mapM (digitValue? radix)).map fun values =>
      values.foldl (fun n d => n * radix + d) 0).filter fun n => n < Nat.pow 2 128

/-- Digits without the underscores between them. -/
def withoutUnderscores (digits : Text) : Option Text :=
  if digits.getLast? = some '_' then none else some (digits.filter (· ≠ '_'))

/-- Read a number at the start of a text. -/
def number? (t : Text) : Option (Token × Text) :=
  match radix? t with
  | some (radix, rest) =>
      let isPart := fun (c : Char) => c.isDigit || c == '_' || (radix == 16 && c.isAlpha &&
        (digitValue? 16 c).isSome)
      (withoutUnderscores (rest.takeWhile isPart)).bind fun digits =>
        (wholeNumber? radix digits).map fun n => (.integer n, rest.dropWhile isPart)
  | none =>
      let (state, digits, rest) := splitNumber .whole t
      (withoutUnderscores digits).bind fun digits =>
        if state = .whole then (wholeNumber? 10 digits).map fun n => (.integer n, rest)
        else (Binary.ofText? .double digits).map fun x => (.float x, rest)

/-- What follows a backslash: the character it stands for. -/
def simpleEscape? (c : Char) : Option Char :=
  if c = '"' ∨ c = '\\' ∨ c = '/' ∨ c = '\'' then some c
  else if c = 'b' then some '\x08'
  else if c = 'f' then some '\x0c'
  else if c = 'n' then some '\n'
  else if c = 'r' then some '\r'
  else if c = 't' then some '\t'
  else none

/-- The number that four hexadecimal digits spell. -/
def fourDigits? (digits : Text) : Option Nat :=
  if digits.length = 4 then wholeNumber? 16 digits else none

/-- Undo the escapes of a string; a pair of surrogates is one character. -/
def unescape? : Nat → Text → Option Text
  | 0, _ => none
  | _ + 1, [] => some []
  | fuel + 1, '\\' :: 'u' :: rest =>
      (fourDigits? (rest.take 4)).bind fun high =>
        let rest := rest.drop 4
        if 0xD800 ≤ high ∧ high < 0xDC00 then
          match rest with
          | '\\' :: 'u' :: more =>
              (fourDigits? (more.take 4)).bind fun low =>
                if 0xDC00 ≤ low ∧ low < 0xE000 then
                  (unescape? fuel (more.drop 4)).map fun t =>
                    Char.ofNat (0x10000 + (high - 0xD800) * 0x400 + (low - 0xDC00)) :: t
                else none
          | _ => none
        else if 0xDC00 ≤ high ∧ high < 0xE000 then none
        else (unescape? fuel rest).map fun t => Char.ofNat high :: t
  | fuel + 1, '\\' :: c :: rest =>
      (simpleEscape? c).bind fun c => (unescape? fuel rest).map (c :: ·)
  | _ + 1, ['\\'] => none
  | fuel + 1, c :: rest => (unescape? fuel rest).map (c :: ·)

/-- The inside of a string up to its closing quote, escapes kept, and what follows it. -/
def splitString (quote : Char) : Text → Option (Text × Text)
  | [] => none
  | '\\' :: c :: rest => (splitString quote rest).map fun (t, more) => ('\\' :: c :: t, more)
  | c :: rest =>
      if c = quote then some ([], rest)
      else if c = '\\' then none
      else (splitString quote rest).map fun (t, more) => (c :: t, more)

/-- The signs of two characters. -/
def doubleSigns : List String := ["//", "**", "==", "!=", ">=", "<="]

/-- The signs of one character. -/
def singleSigns : List Char := "+-*/%.,:~|=><()[]\x7b\x7d".toList

/-- Read a sign at the start of a text. -/
def sign? (t : Text) : Option (String × Text) :=
  match doubleSigns.find? fun s => s.toList.isPrefixOf t with
  | some s => some (s, t.drop 2)
  | none =>
      match t with
      | c :: rest => if singleSigns.contains c then some (String.singleton c, rest) else none
      | [] => none

/-- How a sign changes the number of open brackets. -/
def bracketStep (s : String) : Int :=
  if s = "(" ∨ s = "[" ∨ s = "\x7b" then 1
  else if s = ")" ∨ s = "]" ∨ s = "\x7d" then -1
  else 0

/-- Read the closing mark of a variable or a block. -/
def closing? (isBlock : Bool) (t : Text) : Option (Margin × Text) :=
  let (margin, rest) := splitMargin t
  (Text.dropStart? (if isBlock then ['%', '\x7d'] else ['\x7d', '\x7d']) rest).map fun rest =>
    (margin, rest)

/-- Where the reading of a template stands. -/
inductive Place where
  | outside (margin : Margin)
  | inside (isBlock : Bool) (brackets : Int)

/-- Read one token inside a mark: the token and what follows it. -/
def inner? (t : Text) : Except TemplateFault (Token × Text) :=
  match t with
  | [] => .error .syntaxError
  | c :: rest =>
      if c = '"' ∨ c = '\'' then
        match splitString c rest with
        | none => .error .syntaxError
        | some (raw, rest) =>
            match unescape? (raw.length + 1) raw with
            | some t => .ok (.string t, rest)
            | none => .error .badEscape
      else if c.isDigit then
        match number? t with
        | some result => .ok result
        | none => .error .syntaxError
      else if startsName c then
        .ok (.name (t.takeWhile isNameChar), t.dropWhile isNameChar)
      else
        match sign? t with
        | some (s, rest) => .ok (.sign s, rest)
        | none => .error .syntaxError

/-- Read the tokens of a template from some place on.  Each step takes at least one character
or leaves the outside, so twice the length is fuel enough. -/
def read : Nat → Place → Text → Except TemplateFault (List Token)
  | 0, _, _ => .error .syntaxError
  | fuel + 1, .outside margin, t =>
      let (before, found) := splitOpening (margin.cutStart t)
      match found with
      | none => .ok (ofData before)
      | some (opening, rest) =>
          let (outer, rest) := splitMargin rest
          let lead := ofData (outer.cutEnd before)
          match opening with
          | .comment =>
              match splitCommentEnd rest with
              | none => .error .syntaxError
              | some (comment, rest) =>
                  (read fuel (.outside (.of comment.getLast?)) rest).map (lead ++ ·)
          | .variable =>
              (read fuel (.inside false 0) rest).map (lead ++ .openVariable :: ·)
          | .block =>
              match bareBlock? "raw" rest with
              | none => (read fuel (.inside true 0) rest).map (lead ++ .openBlock :: ·)
              | some (start, rest) =>
                  match splitRawEnd rest with
                  | none => .error .syntaxError
                  | some (raw, before, after, rest) =>
                      let raw := before.cutEnd (start.cutStart raw)
                      (read fuel (.outside after) rest).map (lead ++ ofData raw ++ ·)
  | fuel + 1, .inside isBlock brackets, t =>
      let t := skipBlanks t
      if t.isEmpty then .ok []
      else
        match (if brackets = 0 then closing? isBlock t else none) with
        | some (margin, rest) =>
            (read fuel (.outside margin) rest).map
              ((if isBlock then .closeBlock else .closeVariable) :: ·)
        | none =>
            match inner? t with
            | .error e => .error e
            | .ok (token, rest) =>
                let brackets :=
                  match token with
                  | .sign s => brackets + bracketStep s
                  | _ => brackets
                (read fuel (.inside isBlock brackets) rest).map (token :: ·)

/-- The tokens of a template. -/
def ofTemplate (t : Text) : Except TemplateFault (List Token) :=
  read (2 * t.length + 2) (.outside .keep) t

end Token
end Multipage.Template
