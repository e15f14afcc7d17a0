/-
# Multipage.Command.Negotiate -- which representation a request would be served

The request is described by its path and the value of its Accept field.  Nothing is rendered: the
answer is the media type, with the renderer of its page if there is one.
-/
import Multipage.Command.Compile
import Multipage.Command.Report

namespace Multipage.Command

set_option autoImplicit false

/-- Why a request cannot be described in that way. -/
inductive RequestFault where
  | invalidPath (path : Text) (error : UriError)
  | invalidAccept (value : Text)
  deriving DecidableEq

def RequestFault.message : RequestFault → Text
  | .invalidPath path error => "Invalid request path " ++ path ++ ": " ++ error.message
  | .invalidAccept value => "Invalid Accept header " ++ value ++ ": failed to parse header value"

/-- The request for a path with an optional Accept field. -/
def describedRequest (accept : Option Text) (path : Text) : Except RequestFault Request :=
  match Uri.ofText? path with
  | .error error => .error (.invalidPath path error)
  | .ok uri =>
      match accept with
      | none => .ok { uri }
      | some accept =>
          match HeaderValue.ofBytes? (Utf8.encode accept) with
          | none => .error (.invalidAccept accept)
          | some value => .ok { uri, headers := [(.accept, value)] }

section Serving

-- The media type that a path extension names, if it names one.
variable (known : Text → Option Text)

/-- Report which representation of a resource a request would be served. -/
def reportSelection (resource : Resource) (request : Request) : Report :=
  let events := resource.selectEvents known request
  match resource.describeSelection known request with
  | .ok line => { lines := [line], events }
  | .error e => { lines := ["406 Not Acceptable"], events, failure := some e.message }

/-- Compile a file and report which representation a request would be served. -/
def Workshop.negotiate (workshop : Workshop) (file : Text) (accept : Option Text) (path : Text) :
    Report :=
  let events := workshop.compileEvents file
  match workshop.compile file, describedRequest accept path with
  | .error e, _ => { events, failure := some e.message }
  | .ok _, .error fault => { events, failure := some fault.message }
  | .ok resource, .ok request => (reportSelection known resource request).withEvents events

end Serving

end Multipage.Command
