/-
# Multipage.Context -- what the logic pages of one request work on

A context holds the request, the response under construction and the values that logic pages
leave for the content pages.  Running a logic page is a capability of the host: a `Runner`
gives the context that the page leaves and, when the page ends early, the reason.
-/
import Multipage.Message

namespace Multipage

set_option autoImplicit false

/-- The state of one request. -/
structure Context where
  request : Request := {}
  response : Response := {}
  values : Members := []

/-- Set a value. -/
def Context.insert (context : Context) (key : Text) (value : Json) : Context :=
  { context with values := Members.insert key value context.values }

/-- Why a template cannot be read or rendered. -/
inductive TemplateFault where
  | syntaxError
  | undefinedValue
  | invalidOperation
  | unknownFilter
  | unknownFunction
  | unknownTest
  | unknownMethod
  | templateNotFound
  | badEscape
  | badInclude
  | tooManyArguments
  | missingArgument
  | cannotUnpack
  deriving DecidableEq, Repr

def TemplateFault.message : TemplateFault → Text
  | .syntaxError => "syntax error"
  | .undefinedValue => "undefined value"
  | .invalidOperation => "invalid operation"
  | .unknownFilter => "unknown filter"
  | .unknownFunction => "unknown function"
  | .unknownTest => "unknown test"
  | .unknownMethod => "unknown method"
  | .templateNotFound => "template not found"
  | .badEscape => "bad string escape"
  | .badInclude => "could not render include"
  | .tooManyArguments => "too many arguments"
  | .missingArgument => "missing argument"
  | .cannotUnpack => "cannot unpack"

/-- Why a content page was not accepted by its renderer, or not rendered. -/
inductive RenderError where
  | template (location : Text) (fault : TemplateFault)
  /-- A failure of a renderer of the host, in its own words. -/
  | host (message : Text)
  deriving DecidableEq

def RenderError.message : RenderError → Text
  | .template location fault => "Template error in " ++ location ++ ": " ++ fault.message
  | .host message => message

/-- Why a request was not answered in the ordinary way. -/
inductive RequestError where
  /-- A response raised as an early exit. -/
  | raised (response : Response)
  /-- A logic page failed. -/
  | execution (message : Text)
  /-- The selected content page failed. -/
  | render (error : RenderError)

namespace RequestError

def message : RequestError → Text
  | .raised response => "Response raised with status " ++ response.status.describe
  | .execution message => "Logic page failed: " ++ message
  | .render error => "Render failed: " ++ error.message

/-- What the client gets: a raised response as it is, and for a failure a plain 500. -/
def toResponse : RequestError → Response
  | .raised response => response
  | error => .ofText .internalServerError error.message

end RequestError

/-- Run one logic page: its text and the context give the context it leaves, and the error
that ended it, if any. -/
abbrev Runner := Text → Context → Context × Option RequestError

end Multipage
