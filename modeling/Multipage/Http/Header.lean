/-
# Multipage.Http.Header -- header names, header values and header lists

A header value is bytes: any byte from 0x20 on except 0x7F, and the tab.  It reads as text
only when it is printable ASCII and tabs.  A name is a token, kept in lower case, so that
equal names are equal texts.  Legality is part of both types: an illegal header cannot be
built.

A header list keeps the fields in the order they were added.  `get?` sees the first field of
a name, `set` leaves exactly one, `add` keeps those that are there.
-/
import Multipage.Text.Utf8

namespace Multipage

set_option autoImplicit false

/-- The characters of a token besides letters and digits. -/
def tokenMarks : List Char := "!#$%&'*+-.^_\x60|~".toList

/-- A character of a header token. -/
def isTokenChar (c : Char) : Bool := c.isAlphanum || tokenMarks.contains c

/-- A header name in lower case. -/
structure HeaderName where
  text : Text
  isToken : text.isRunOf isTokenChar = true
  deriving DecidableEq

namespace HeaderName

/-- The longest name that is stored. -/
def maxLength : Nat := 65535

/-- The name that `t` spells in any case, when `t` is a token. -/
def ofText? (t : Text) : Option HeaderName :=
  let lower := Text.asciiLower t
  if h : lower.isRunOf isTokenChar = true then
    if lower.length ≤ maxLength then some ⟨lower, h⟩ else none
  else none

def accept : HeaderName := ⟨"accept", by decide⟩
def contentType : HeaderName := ⟨"content-type", by decide⟩
def allowOrigin : HeaderName := ⟨"access-control-allow-origin", by decide⟩

end HeaderName

/-- A byte that a header value may hold. -/
def isHeaderByte (b : UInt8) : Bool := b == 0x09 || (0x20 ≤ b && b != 0x7F)

/-- A byte that a header value may hold and still read as text. -/
def isHeaderTextByte (b : UInt8) : Bool := b == 0x09 || (0x20 ≤ b && b < 0x7F)

/-- The bytes of a header field. -/
structure HeaderValue where
  bytes : Bytes
  isLegal : bytes.all isHeaderByte = true
  deriving DecidableEq

namespace HeaderValue

def ofBytes? (bytes : Bytes) : Option HeaderValue :=
  if h : bytes.all isHeaderByte = true then some ⟨bytes, h⟩ else none

/-- The value whose bytes are the encoding of `t`. -/
def ofText? (t : Text) : Option HeaderValue := ofBytes? (Utf8.encode t)

/-- The value as text, when it is printable ASCII and tabs. -/
def text? (v : HeaderValue) : Option Text :=
  if v.bytes.all isHeaderTextByte then some (v.bytes.map fun b => Char.ofNat b.toNat) else none

/-- The media type of an answer that is plain text. -/
def plainText : HeaderValue := ⟨"text/plain".toList.map fun c => UInt8.ofNat c.toNat, by decide⟩

/-- Every origin. -/
def anyOrigin : HeaderValue := ⟨[0x2A], by decide⟩

end HeaderValue

/-- Header fields in the order they were added. -/
abbrev Headers := List (HeaderName × HeaderValue)

namespace Headers

/-- The first field of that name. -/
def get? (headers : Headers) (name : HeaderName) : Option HeaderValue :=
  (headers.find? fun field => field.1 == name).map Prod.snd

/-- Every value of that name, in order. -/
def getAll (headers : Headers) (name : HeaderName) : List HeaderValue :=
  (headers.filter fun field => field.1 == name).map Prod.snd

/-- Whether there is a field of that name. -/
def has (headers : Headers) (name : HeaderName) : Bool := headers.any fun field => field.1 == name

/-- The fields of all other names. -/
def without (headers : Headers) (name : HeaderName) : Headers :=
  headers.filter fun field => field.1 != name

/-- Make `value` the only one of that name. -/
def set (headers : Headers) (name : HeaderName) (value : HeaderValue) : Headers :=
  headers.without name ++ [(name, value)]

/-- Add a field after those that are there. -/
def add (headers : Headers) (name : HeaderName) (value : HeaderValue) : Headers :=
  headers ++ [(name, value)]

/-- The first field of that name as text. -/
def text? (headers : Headers) (name : HeaderName) : Option Text :=
  (headers.get? name).bind HeaderValue.text?

end Headers
end Multipage
