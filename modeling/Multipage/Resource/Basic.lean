/-
# Multipage.Resource.Basic -- compiling a source file and answering with it

A source file becomes a resource once, or is refused with the first cause found: a setting, the
number of pages, then the pages in order.  A resource is never half compiled.

Which media type a path extension names is for the host to say: `known` is any function.

`respond` runs the logic pages in order, each on the context that the one before it left.  The
first page that ends early ends the run: a response it raises is finished in the way of the
resource, a failure is passed on.  When all pages have run, `getResponse` answers from the
context they left.  `LogicRun` keeps what was visited, so that the order can be spoken of.
-/
import Multipage.Resource.Json
import Multipage.Resource.Kind
import Multipage.Resource.Negotiated

namespace Multipage

set_option autoImplicit false

/-- A compiled resource. -/
inductive Resource where
  | json (resource : JsonResource)
  | negotiated (resource : NegotiatedResource)

namespace Resource

/-- Compile a source file. -/
def compile (kind : Kind) (source : Source) (registry : Registry) (settings : Settings) :
    Except CompileError Resource :=
  match settings.validate with
  | .error e => .error e
  | .ok () =>
      if !kind.allows source.pages.length then
        .error (.pageCount source.path source.pages.length kind.expectedPages)
      else
        let logicPages := source.pages.take kind.logicPages
        let contentPages := source.pages.drop kind.logicPages
        match kind with
        | .json => (JsonResource.compile settings source.path logicPages contentPages).map .json
        | .negotiated =>
            (ContentPage.compileAll registry settings.defaultRenderer source.path []
              contentPages).map fun pages =>
                .negotiated { path := source.path, logicPages, charset := settings.charset, pages }

def kind : Resource → Kind
  | .json _ => .json
  | .negotiated _ => .negotiated

def path : Resource → Text
  | .json r => r.path
  | .negotiated r => r.path

def logicPages : Resource → List Text
  | .json r => r.logicPages
  | .negotiated r => r.logicPages

def charset : Resource → Option Text
  | .json r => r.charset
  | .negotiated r => r.charset

/-- The media types that the resource can answer with, in order. -/
def availableTypes : Resource → List Text
  | .json r => [r.mediaType]
  | .negotiated r => r.availableTypes

/-- The event of a compiled resource that was made of `pageCount` pages. -/
def compiledEvent (resource : Resource) (pageCount : Nat) : Event :=
  { level := .debug, source := .compiling, message := "Compiled resource"
    fields := [("path", resource.path), ("kind", resource.kind.name),
      ("pages", Text.ofNat pageCount), ("available", Text.quotedList resource.availableTypes)] }

section Serving

-- The media type that a path extension names, if it names one.
variable (known : Text → Option Text)

/-- The media type that would be served. -/
def select (resource : Resource) (request : Request) : Except NotAcceptable Text :=
  match resource with
  | .json r => .ok r.mediaType
  | .negotiated r =>
      match r.select known request with
      | .error e => .error e
      | .ok index =>
          match r.availableTypes[index]? with
          | some mediaType => .ok mediaType
          | none => .error ⟨r.availableTypes⟩

/-- The events of `select`. -/
def selectEvents (resource : Resource) (request : Request) : List Event :=
  match resource with
  | .json _ => []
  | .negotiated r => r.selectEvents known request

/-- Answer from a context that the logic pages have prepared. -/
def getResponse (resource : Resource) (context : Context) : Except RequestError Response :=
  match resource with
  | .json r => .ok (r.finish context.request context.response)
  | .negotiated r => r.getResponse known context

/-- The events of `getResponse`. -/
def responseEvents (resource : Resource) (context : Context) : List Event :=
  match resource with
  | .json r => r.finishEvents context.request
  | .negotiated r => r.responseEvents known context

end Serving

/-- Finish a response that was raised while serving `request`. -/
def finishRaised (resource : Resource) (request : Request) (response : Response) : Response :=
  match resource with
  | .json r => r.finish request response
  | .negotiated _ => response

/-- The events of `finishRaised`. -/
def raisedEvents (resource : Resource) (request : Request) : List Event :=
  match resource with
  | .json r => r.finishEvents request
  | .negotiated _ => []

end Resource

/-- One logic page that was run, and the context it was given. -/
structure LogicVisit where
  page : Text
  before : Context

/-- What running logic pages comes to. -/
structure LogicRun where
  /-- The pages that were run, in order. -/
  visits : List LogicVisit
  /-- The context that the last of them left. -/
  context : Context
  /-- Why the last of them ended early, if it did. -/
  stop : Option RequestError

/-- Run pages in order until one ends early. -/
def LogicRun.of (runner : Runner) (context : Context) : List Text → LogicRun
  | [] => ⟨[], context, none⟩
  | page :: rest =>
      match runner page context with
      | (after, some e) => ⟨[⟨page, context⟩], after, some e⟩
      | (after, none) =>
          let run := LogicRun.of runner after rest
          { run with visits := ⟨page, context⟩ :: run.visits }

namespace Resource

/-- The context that the first logic page is given. -/
def initialContext (resource : Resource) (request : Request) : Context :=
  { request, response := { charset := resource.charset } }

/-- Run the logic pages on a request. -/
def runLogic (resource : Resource) (runner : Runner) (request : Request) : LogicRun :=
  LogicRun.of runner (resource.initialContext request) resource.logicPages

section Serving

-- The media type that a path extension names, if it names one.
variable (known : Text → Option Text)

/-- The answer once the logic pages have been run. -/
def concludeRun (resource : Resource) (run : LogicRun) : Except RequestError Response :=
  match run.stop with
  | none => resource.getResponse known run.context
  | some (.raised response) =>
      .error (.raised (resource.finishRaised run.context.request response))
  | some e => .error e

/-- The events of `concludeRun`. -/
def concludeEvents (resource : Resource) (run : LogicRun) : List Event :=
  match run.stop with
  | none => resource.responseEvents known run.context
  | some (.raised _) => resource.raisedEvents run.context.request
  | some _ => []

/-- Serve one request. -/
def respond (resource : Resource) (request : Request) (runner : Runner) :
    Except RequestError Response :=
  resource.concludeRun known (resource.runLogic runner request)

/-- The media type served for a request and the renderer of its page, if there is one. -/
def describeSelection (resource : Resource) (request : Request) : Except NotAcceptable Text :=
  (resource.select known request).map fun mediaType =>
    match resource with
    | .json _ => mediaType
    | .negotiated r =>
        match r.rendererFor? mediaType with
        | some renderer => mediaType ++ " (renderer: " ++ renderer ++ ")"
        | none => mediaType

end Serving
end Resource
end Multipage
