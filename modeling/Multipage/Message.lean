/-
# Multipage.Message -- requests, responses and their bodies

A request is a target, header fields and named flags; a response is a status, a body, header
fields and a charset.  Both are plain values: a resource reads one and returns the other.
-/
import Multipage.Http.Header
import Multipage.Http.Query
import Multipage.Http.Status
import Multipage.Http.Uri
import Multipage.Json.Value
import Multipage.Text.Blank

namespace Multipage

set_option autoImplicit false

/-- The content of a response. -/
inductive Body where
  | text (t : Text)
  | bytes (bs : Bytes)
  /-- A structured value, which a JSON resource writes out. -/
  | value (v : Json)

/-- The text of a text body. -/
def Body.asText? : Body → Option Text
  | .text t => some t
  | _ => none

/-- What a resource is asked. -/
structure Request where
  uri : Uri := .root
  headers : Headers := []
  /-- Flags of this request, set by the host or by logic pages. -/
  flags : Members := []

namespace Request

/-- The first Accept field, unless it is blank.  Bytes that are not text are replaced, so that
such a field still counts. -/
def accept? (request : Request) : Option Text :=
  ((request.headers.get? .accept).map fun v => Utf8.decodeLossy v.bytes).filter
    fun t => !(Text.trim t).isEmpty

/-- The first query parameter of that name. -/
def queryParameter? (request : Request) (name : Text) : Option Text :=
  request.uri.query.bind fun query => Query.get? query name

/-- Whether a flag is set to a value that counts as true. -/
def flag (request : Request) (name : Text) : Bool :=
  (request.flags.get? name).any Json.isTruthy

end Request

/-- What a resource answers. -/
structure Response where
  status : Status := .ok
  body : Body := .text []
  headers : Headers := []
  /-- The charset that `text/*` content types are sent with. -/
  charset : Option Text := none

namespace Response

/-- A text with a status and nothing else. -/
def ofText (status : Status) (body : Text) : Response := { status, body := .text body }

/-- The first Content-Type field as text. -/
def contentType? (response : Response) : Option Text := response.headers.text? .contentType

/-- Make `value` the only field of that name. -/
def setHeader (response : Response) (name : HeaderName) (value : HeaderValue) : Response :=
  { response with headers := response.headers.set name value }

end Response
end Multipage
