/-
# Multipage.Event -- what is worth a line in a log

An event is data: a level, a message and named fields in their written form.  The functions
that answer return no events; beside each of them stands one that lists the events of the same
work.
-/
import Multipage.Text.Quoted

namespace Multipage

set_option autoImplicit false

inductive EventLevel where
  | debug
  | info
  | warn
  deriving DecidableEq, Repr

def EventLevel.name : EventLevel → Text
  | .debug => "DEBUG"
  | .info => "INFO"
  | .warn => "WARN"

/-- The part of the program that an event comes from. -/
inductive EventSource where
  | compiling
  | negotiating
  | finishingJson
  | running
  deriving DecidableEq, Repr

/-- How the source of an event is written. -/
def EventSource.name : EventSource → Text
  | .compiling => "sp_resource::resource"
  | .negotiating => "sp_resource::resource::negotiated"
  | .finishingJson => "sp_resource::resource::json"
  | .running => "sp::commands"

structure Event where
  level : EventLevel
  source : EventSource
  message : Text
  fields : List (Text × Text)
  deriving DecidableEq

/-- The event as one line. -/
def Event.line (event : Event) : Text :=
  event.level.name ++ " " ++ event.source.name ++ ": " ++ event.message ++
    event.fields.flatMap fun (name, value) => ' ' :: name ++ '=' :: value

end Multipage
