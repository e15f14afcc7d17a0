/-
# Multipage.Http.Uri -- the target of a request

A request target is one of three forms: a path with an optional query (`/a/b?c`), a scheme
and authority before them (`http://host/a`), or an authority alone (`host:80`).  Only the
path and the query are kept.  An authority alone has the empty path; a scheme without a path
has the path `/`.  A fragment ends the path or the query and is not looked at.

`Uri.ofText?` says which character or which part is at fault.
-/
import Multipage.Text.Basic

namespace Multipage

set_option autoImplicit false

/-- Why a text is not a request target. -/
inductive UriError where
  | empty
  | tooLong
  | schemeTooLong
  | invalidCharacter
  | invalidAuthority
  | invalidFormat
  deriving DecidableEq, Repr

def UriError.message : UriError → Text
  | .empty => "empty string"
  | .tooLong => "uri too long"
  | .schemeTooLong => "scheme too long"
  | .invalidCharacter => "invalid uri character"
  | .invalidAuthority => "invalid authority"
  | .invalidFormat => "invalid format"

/-- Path and query of a request target. -/
structure Uri where
  path : Text
  query : Option Text
  deriving DecidableEq

namespace Uri

/-- The path `/`. -/
def root : Uri := ⟨['/'], none⟩

/-- The most bytes a target may have. -/
def maxLength : Nat := 65534

/-- The longest scheme. -/
def maxSchemeLength : Nat := 64

/-- A character between two code points. -/
def inRange (c : Char) (first last : Nat) : Bool := first ≤ c.toNat && c.toNat ≤ last

/-- A character of a path. -/
def isPathChar (c : Char) : Bool :=
  c == '!' || inRange c 0x24 0x3B || c == '=' || inRange c 0x40 0x5F || inRange c 0x61 0x7A ||
    c == '|' || c == '~' || c == '"' || c == '\x7b' || c == '\x7d' || 0x80 ≤ c.toNat

/-- A character of a query. -/
def isQueryChar (c : Char) : Bool :=
  c == '!' || inRange c 0x24 0x3B || c == '=' || inRange c 0x3F 0x7E || 0x80 ≤ c.toNat

/-- A character of a scheme. -/
def isSchemeChar (c : Char) : Bool :=
  c.isAlphanum || c == '+' || c == '-' || c == '.' || c == '~'

/-- A character of an authority; the percent sign has a rule of its own. -/
def isAuthorityChar (c : Char) : Bool :=
  c.isAlphanum || "!$&'()*+,-.:;=@[]_~".toList.contains c

/-- A character that ends an authority. -/
def endsAuthority (c : Char) : Bool := c == '/' || c == '?' || c == '#'

/-- The query after its question mark, up to a fragment. -/
def query? (t : Text) : Except UriError Text :=
  let query := t.takeWhile (· ≠ '#')
  if query.all isQueryChar then .ok query else .error .invalidCharacter

/-- Path and query, up to a fragment.  The empty path stands for `/`. -/
def ofPathAndQuery (t : Text) : Except UriError Uri :=
  let path := t.takeWhile fun c => c ≠ '?' ∧ c ≠ '#'
  let rest := t.dropWhile fun c => c ≠ '?' ∧ c ≠ '#'
  if path.all isPathChar then
    let path := if path.isEmpty then ['/'] else path
    match rest with
    | '?' :: query => (query? query).map fun q => ⟨path, some q⟩
    | _ => .ok ⟨path, none⟩
  else .error .invalidCharacter

/-- What has been read of an authority. -/
structure AuthorityScan where
  /-- Colons since the user part and the brackets. -/
  colons : Nat := 0
  opened : Bool := false
  closed : Bool := false
  /-- A percent sign since the user part and the brackets. -/
  percent : Bool := false
  /-- The last character was an at sign. -/
  endsWithAt : Bool := false

/-- The most colons that may follow one another's parts, as in a bracketed address. -/
def AuthorityScan.maxColons : Nat := 8

/-- Read one more character of an authority. -/
def AuthorityScan.step (scan : AuthorityScan) (c : Char) : Except UriError AuthorityScan :=
  if c = ':' then
    if scan.colons < maxColons then
      .ok { scan with colons := scan.colons + 1, endsWithAt := false }
    else .error .invalidAuthority
  else if c = '[' then
    if scan.percent || scan.opened then .error .invalidAuthority
    else .ok { scan with opened := true, endsWithAt := false }
  else if c = ']' then
    if !scan.opened || scan.closed then .error .invalidAuthority
    else .ok { scan with closed := true, colons := 0, percent := false, endsWithAt := false }
  else if c = '@' then .ok { scan with colons := 0, percent := false, endsWithAt := true }
  else if c = '%' then .ok { scan with percent := true, endsWithAt := false }
  else if isAuthorityChar c then .ok { scan with endsWithAt := false }
  else .error .invalidCharacter

/-- Whether what has been read is an authority. -/
def AuthorityScan.isComplete (scan : AuthorityScan) : Bool :=
  scan.opened == scan.closed && scan.colons ≤ 1 && !scan.endsWithAt && !scan.percent

/-- Cut an authority off the start of a non-empty text. -/
def splitAuthority (t : Text) : Except UriError (Text × Text) :=
  if t.isEmpty then .error .empty
  else
    let authority := t.takeWhile fun c => !endsAuthority c
    match authority.foldlM AuthorityScan.step {} with
    | .error e => .error e
    | .ok scan =>
        if scan.isComplete then .ok (authority, t.dropWhile fun c => !endsAuthority c)
        else .error .invalidAuthority

/-- Cut `scheme://` off the start of a text that has one. -/
def splitScheme? (t : Text) : Except UriError (Option Text) :=
  let scheme := t.takeWhile isSchemeChar
  match t.dropWhile isSchemeChar with
  | ':' :: '/' :: '/' :: rest =>
      if t.length ≤ 3 then .ok none
      else if maxSchemeLength < scheme.length then .error .schemeTooLong
      else .ok (some rest)
  | _ => .ok none

/-- A target that does not start with a slash. -/
def ofFull (t : Text) : Except UriError Uri :=
  match splitScheme? t with
  | .error e => .error e
  | .ok (some rest) =>
      match splitAuthority rest with
      | .error e => .error e
      | .ok (authority, rest) =>
          if authority.isEmpty then .error .invalidFormat else ofPathAndQuery rest
  | .ok none =>
      match splitAuthority t with
      | .error e => .error e
      | .ok (_, rest) => if rest.isEmpty then .ok ⟨[], none⟩ else .error .invalidFormat

/-- Read a request target. -/
def ofText? (t : Text) : Except UriError Uri :=
  if maxLength < Text.byteSize t then .error .tooLong
  else
    match t with
    | [] => .error .empty
    | ['*'] => .ok ⟨['*'], none⟩
    | '/' :: _ => ofPathAndQuery t
    | [c] => if endsAuthority c then .error .invalidCharacter else ofFull t
    | _ => ofFull t

/-- The extension of the last segment of the path: what follows its last point, when there is
something on both sides of that point. -/
def extension? (uri : Uri) : Option Text :=
  let segment := (uri.path.splitOn '/').getLast?.getD []
  match Text.splitLast '.' segment with
  | some (stem, extension) =>
      if !stem.isEmpty && !extension.isEmpty then some extension else none
  | none => none

end Uri
end Multipage
