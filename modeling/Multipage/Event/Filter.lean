/-
# Multipage.Event.Filter -- which events are written

A filter is directives with commas between them.  A directive is a level, the start of the name
of a source, or both with `=` between them: `info`, `sp`, `sp_resource=debug`.  Without a name
it is about all sources, without a level it lets everything through.  For an event the directive
with the longest start of its source decides, and of two with the same start the later one; an
event that no directive is about is not written.

A filter without directives lets errors through.  What is no directive is passed over with a
remark.
-/
import Multipage.Event

namespace Multipage

set_option autoImplicit false

/-- How much is let through, from nothing (0) over errors (1), warnings (2), information (3)
and debugging (4) to everything (5). -/
abbrev Detail := Nat

/-- The detail that an event of the level needs. -/
def EventLevel.detail : EventLevel → Detail
  | .warn => 2
  | .info => 3
  | .debug => 4

/-- The sources whose names start in one way, and how much of them is let through. -/
structure LogDirective where
  source : Text := []
  detail : Detail
  deriving DecidableEq, Repr

/-- Why a text is no directive. -/
inductive LogDirectiveFault where
  | malformed
  | unknownLevel
  deriving DecidableEq, Repr

def LogDirectiveFault.message : LogDirectiveFault → Text
  | .malformed => "invalid filter directive"
  | .unknownLevel =>
      "error parsing level filter: expected one of \"off\", \"error\", \"warn\", \"info\", " ++
        "\"debug\", \"trace\", or a number 0-5"

namespace LogDirective

/-- The names of the levels, in the order of their detail. -/
def levelNames : List Text := ["off", "error", "warn", "info", "debug", "trace"]

/-- The detail that a name in any case or a number stands for. -/
def detail? (t : Text) : Option Detail :=
  if Text.isRunOf Char.isDigit t then
    let n := t.foldl (fun value c => value * 10 + (c.toNat - '0'.toNat)) 0
    if n < levelNames.length then some n else none
  else levelNames.findIdx? (Text.eqIgnoringCase t)

/-- A character that a directive may start with. -/
def isNameStart (c : Char) : Bool :=
  c.isAlphanum || c == '_' || c == '-' || c == ':' || c == '[' || 0x80 ≤ c.toNat

/-- Read one directive. -/
def ofText? (t : Text) : Except LogDirectiveFault LogDirective :=
  if !(t.head?.all isNameStart) then .error .malformed
  else
    match Text.splitOnce '=' t with
    | none => .ok (match detail? t with
        | some detail => { detail }
        | none => { source := t, detail := 5 })
    | some (source, []) => .ok { source, detail := 5 }
    | some (source, level) =>
        match detail? level with
        | some detail => .ok { source, detail }
        | none => .error .unknownLevel

/-- Whether the directive is about the source of that name. -/
def isAbout (directive : LogDirective) (name : Text) : Bool := directive.source.isPrefixOf name

end LogDirective

/-- The directives of a filter, in order. -/
structure LogFilter where
  directives : List LogDirective

namespace LogFilter

/-- What lets everything through from that detail on. -/
def upTo (detail : Detail) : LogFilter := ⟨[{ detail }]⟩

/-- The parts of a filter, each with what it is read as. -/
def readParts (t : Text) : List (Text × Except LogDirectiveFault LogDirective) :=
  ((t.splitOn ',').filter fun part => !part.isEmpty).map fun part =>
    (part, LogDirective.ofText? part)

/-- Read a filter. -/
def ofText (t : Text) : LogFilter :=
  let directives := (readParts t).filterMap fun (_, reading) => reading.toOption
  if directives.isEmpty then upTo 1 else ⟨directives⟩

/-- A remark on each part of a filter that is no directive. -/
def remarks (t : Text) : List Text :=
  (readParts t).filterMap fun (part, reading) =>
    match reading with
    | .ok _ => none
    | .error fault => some ("ignoring \x60" ++ part ++ "\x60: " ++ fault.message)

/-- The directive that decides about the source of that name. -/
def deciding? (filter : LogFilter) (name : Text) : Option LogDirective :=
  filter.directives.foldl (fun best directive =>
    if directive.isAbout name &&
        best.all fun held => held.source.length ≤ directive.source.length then
      some directive
    else best) none

/-- Whether an event is written. -/
def admits (filter : LogFilter) (event : Event) : Bool :=
  (filter.deciding? event.source.name).any fun directive => event.level.detail ≤ directive.detail

end LogFilter
end Multipage
