/-
# Multipage.Resource.Negotiated -- resources with one content page per media type

A negotiated resource has one logic page and two or more content pages.  The first line of a
content page is its specline and the rest its body; a page without a line end has no specline.
Compiling goes through the pages in order and stops at the first that is refused, so of a page
that repeats a media type the earlier one has been accepted before.

For a request the path extension, if it names a media type, stands in for the Accept header.
Which extensions name one is for the host to say: `known` is any function.  The chosen page is
rendered against the context.  A Content-Type that logic pages have set is left alone; otherwise
the page's own is sent, with the charset when its type is `text/*` and the two together are legal
in a header.
-/
import Multipage.Event
import Multipage.Media.Negotiation
import Multipage.Renderer
import Multipage.Source
import Multipage.Specline

namespace Multipage

set_option autoImplicit false

/-- A compiled content page. -/
structure ContentPage where
  mediaType : Text
  rendererName : Text
  render : Renderer
  /-- The media type as a header value. -/
  bareType : HeaderValue

namespace ContentPage

/-- A character that is dropped around a specline. -/
def isSpeclineMargin (c : Char) : Bool := c == pageBreak || c == ' ' || c == '\n'

/-- The specline of a page and its body. -/
def split (page : Text) : Text × Text :=
  let (line, body) := (Text.splitOnce '\n' page).getD ([], page)
  (Text.trimBy isSpeclineMargin line, body)

/-- Compile one page, given the media types of the pages before it. -/
def compile (registry : Registry) (defaultRenderer path : Text) (earlier : List Text)
    (page : Text) : Except CompileError ContentPage :=
  let (line, body) := split page
  match Specline.ofText defaultRenderer line with
  | .error e => .error e
  | .ok specline =>
      match specline.resolve registry with
      | .error e => .error e
      | .ok factory =>
          match factory path body with
          | .error e => .error (.renderer specline.mediaType specline.renderer e)
          | .ok render =>
              if earlier.contains specline.mediaType then
                .error (.duplicateMediaType specline.mediaType)
              else
                match HeaderValue.ofText? specline.mediaType with
                | none => .error (.malformedMediaType specline.mediaType specline.mediaType)
                | some bareType =>
                    .ok { mediaType := specline.mediaType, rendererName := specline.renderer
                          render, bareType }

/-- Compile pages in order, given the media types of the pages before them. -/
def compileAll (registry : Registry) (defaultRenderer path : Text) (earlier : List Text) :
    List Text → Except CompileError (List ContentPage)
  | [] => .ok []
  | page :: rest =>
      match compile registry defaultRenderer path earlier page with
      | .error e => .error e
      | .ok compiled =>
          (compileAll registry defaultRenderer path (earlier ++ [compiled.mediaType]) rest).map
            (compiled :: ·)

/-- Whether a charset goes with the page's type. -/
def takesCharset (page : ContentPage) : Bool := "text/".toList.isPrefixOf page.mediaType

/-- The page's type with a charset. -/
def typeWithCharset (page : ContentPage) (charset : Text) : Text :=
  page.mediaType ++ "; charset=" ++ charset

/-- The Content-Type of the page. -/
def contentType (page : ContentPage) (charset : Option Text) : HeaderValue :=
  match charset with
  | none => page.bareType
  | some charset =>
      if page.takesCharset then
        (HeaderValue.ofText? (page.typeWithCharset charset)).getD page.bareType
      else page.bareType

/-- A charset that cannot be sent is worth a warning. -/
def contentTypeEvents (page : ContentPage) (charset : Option Text) : List Event :=
  match charset with
  | none => []
  | some charset =>
      if page.takesCharset && (HeaderValue.ofText? (page.typeWithCharset charset)).isNone then
        [{ level := .warn, source := .negotiating
           message := "Dropping charset that is not valid header text"
           fields := [("media_type", page.mediaType), ("charset", Text.quoted charset)] }]
      else []

end ContentPage

/-- A compiled negotiated resource. -/
structure NegotiatedResource where
  path : Text
  logicPages : List Text
  charset : Option Text
  pages : List ContentPage

namespace NegotiatedResource

/-- The media types of the content pages, in order. -/
def availableTypes (resource : NegotiatedResource) : List Text :=
  resource.pages.map ContentPage.mediaType

/-- The renderer of the page with that media type. -/
def rendererFor? (resource : NegotiatedResource) (mediaType : Text) : Option Text :=
  (resource.pages.find? fun page => page.mediaType == mediaType).map ContentPage.rendererName

/-- Put a rendered page into the response that logic pages have left. -/
def deliver (page : ContentPage) (body : Text) (response : Response) : Response :=
  let response := { response with body := .text body }
  if response.headers.has .contentType then response
  else response.setHeader .contentType (page.contentType response.charset)

section Serving

-- The media type that a path extension names, if it names one.
variable (known : Text → Option Text)

/-- What the request accepts: the type of its path extension, as far as `known` has one, else
its Accept header. -/
def acceptOf (request : Request) : Option Text :=
  (request.uri.extension?.bind known).or request.accept?

/-- The place of the page that serves the request. -/
def select (resource : NegotiatedResource) (request : Request) : Except NotAcceptable Nat :=
  negotiate resource.availableTypes (acceptOf known request)

/-- The events of `select`. -/
def selectEvents (resource : NegotiatedResource) (request : Request) : List Event :=
  let accept := acceptOf known request
  (if accept.isNone then
    [{ level := .debug, source := .negotiating
       message := "No Accept header, using default representation"
       fields := [("path", resource.path),
         ("media_type", Text.quotedOption resource.availableTypes.head?)] }]
   else []) ++
  match resource.select known request with
  | .ok _ => []
  | .error e =>
      [{ level := .debug, source := .negotiating, message := e.message
         fields := [("path", resource.path), ("accept", Text.quotedOption accept)] }]

/-- Render the page that fits the request and answer with it. -/
def getResponse (resource : NegotiatedResource) (context : Context) :
    Except RequestError Response :=
  match resource.select known context.request with
  | .error e => .error (.raised e.response)
  | .ok index =>
      match resource.pages[index]? with
      | none => .error (.raised (NotAcceptable.mk resource.availableTypes).response)
      | some page =>
          match page.render context with
          | .error e => .error (.render e)
          | .ok body => .ok (deliver page body context.response)

/-- The events of `getResponse`. -/
def responseEvents (resource : NegotiatedResource) (context : Context) : List Event :=
  resource.selectEvents known context.request ++
  match resource.select known context.request with
  | .error _ => []
  | .ok index =>
      match resource.pages[index]? with
      | none => []
      | some page =>
          match page.render context with
          | .error _ => []
          | .ok _ =>
              if context.response.headers.has .contentType then []
              else page.contentTypeEvents context.response.charset

end Serving

/-- A one-line picture of the resource. -/
def describe (resource : NegotiatedResource) : Text :=
  "NegotiatedResource \x7b path: " ++ Text.quoted resource.path ++ ", available_types: " ++
    Text.quotedList resource.availableTypes ++ ", .. \x7d"

end NegotiatedResource
end Multipage
