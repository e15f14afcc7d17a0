/-
# Multipage.Resource.Json -- resources whose body is JSON

A JSON resource has two logic pages and no content page.  The last step of every answer, one
that is returned and one that a logic page raises, is `finish`:

* a structured body becomes its compact text; text and bytes stay;
* when the flag `enable_jsonp` is set and the query has a `callback` made of letters, digits
  and underscores, the body becomes `callback(body)` and the JSONP type is sent;
* otherwise the JSON type is sent;
* when the flag `enable_cors` is set, every origin is allowed.
-/
import Multipage.Event
import Multipage.Json.Compact
import Multipage.Resource.Settings

namespace Multipage

set_option autoImplicit false

/-- A compiled JSON resource. -/
structure JsonResource where
  path : Text
  logicPages : List Text
  charset : Option Text
  mediaType : Text
  jsonType : HeaderValue
  jsonpType : HeaderValue

namespace JsonResource

/-- A media type of the settings as a header value. -/
def typeHeader (field mediaType : Text) : Except CompileError HeaderValue :=
  match HeaderValue.ofText? mediaType with
  | some value => .ok value
  | none => .error (.invalidSetting field mediaType)

/-- A JSON resource of the given pages. -/
def compile (settings : Settings) (path : Text) (logicPages contentPages : List Text) :
    Except CompileError JsonResource :=
  if !contentPages.isEmpty then .error .contentPagesUnsupported
  else
    match typeHeader Settings.jsonTypeField settings.jsonType with
    | .error e => .error e
    | .ok jsonType =>
        match typeHeader Settings.jsonpTypeField settings.jsonpType with
        | .error e => .error e
        | .ok jsonpType =>
            .ok { path, logicPages, charset := settings.charset
                  mediaType := settings.jsonType, jsonType, jsonpType }

/-- A character of a callback's name. -/
def isCallbackChar (c : Char) : Bool := c == '_' || c.isAlphanum

/-- Whether a text may be called. -/
def isCallback (t : Text) : Bool := Text.isRunOf isCallbackChar t

/-- The callback that the request asks for, whether or not it may be called. -/
def requestedCallback? (request : Request) : Option Text :=
  if request.flag "enable_jsonp" then request.queryParameter? "callback" else none

/-- The callback that the body is wrapped in. -/
def callback? (request : Request) : Option Text :=
  (requestedCallback? request).filter isCallback

/-- The body with a structured value written out. -/
def writtenBody : Body → Body
  | .value v => .text v.compact
  | body => body

/-- `callback(body)`. -/
def wrap (callback : Text) : Body → Body
  | .text t => .text (callback ++ "(" ++ t ++ ")")
  | .value v => .text (callback ++ "(" ++ v.compact ++ ")")
  | .bytes bs => .bytes (Utf8.encode callback ++ [0x28] ++ bs ++ [0x29])

/-- Write the body out, and wrap it when a callback asks for it. -/
def finishBody (request : Request) (body : Body) : Body :=
  match callback? request with
  | some callback => wrap callback (writtenBody body)
  | none => writtenBody body

/-- The type that is sent. -/
def sentType (resource : JsonResource) (request : Request) : HeaderValue :=
  if (callback? request).isSome then resource.jsonpType else resource.jsonType

/-- The last step of every answer. -/
def finish (resource : JsonResource) (request : Request) (response : Response) : Response :=
  let response := { response with body := finishBody request response.body }
  let response := response.setHeader .contentType (resource.sentType request)
  if request.flag "enable_cors" then response.setHeader .allowOrigin .anyOrigin else response

/-- A callback that may not be called is worth a warning. -/
def finishEvents (resource : JsonResource) (request : Request) : List Event :=
  match requestedCallback? request with
  | none => []
  | some callback =>
      if isCallback callback then []
      else
        [{ level := .warn, source := .finishingJson
           message := "Ignoring malformed JSONP callback"
           fields := [("path", resource.path), ("callback", callback)] }]

end JsonResource
end Multipage
