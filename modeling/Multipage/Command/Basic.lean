/-
# Multipage.Command.Basic -- the program as a function

What a run writes and how it ends depends on three values: its arguments, two variables of its
environment, and what it sees of the file system.  What the program is put together from, the
reader of configurations, the renderers and the media types of path extensions, is its `Host`.

The lines for the user go to one channel and the log to the other.  A run without a task, because
its arguments ask for the version or are wrong, does not look at files.
-/
import Multipage.Command.Arguments
import Multipage.Command.Check
import Multipage.Command.Negotiate
import Multipage.Config.Load
import Multipage.Event.Filter

namespace Multipage.Command

set_option autoImplicit false

/-- What the program is put together from. -/
structure Host where
  /-- How a configuration is read from a text. -/
  reader : Config.Reader
  /-- The renderers that content pages can name. -/
  registry : Registry
  /-- The media type that a path extension names, if it names one. -/
  known : Text → Option Text

/-- The variables of the environment that count. -/
structure Environment where
  /-- The default renderer of a command line that names none. -/
  defaultRenderer : Option Text := none
  /-- Which events are written. -/
  log : Option Text := none

/-- The event of a configuration that was read from a file. -/
def loadedEvents (config : Config) : List Event :=
  (config.file.map fun path =>
    { level := .info, source := .running, message := "Loaded configuration"
      fields := [("path", path)] : Event }).toList

/-- The settings that a command line overrides. -/
def Options.overrides (options : Options) (environment : Environment) : Overrides where
  defaultRenderer := options.defaultRenderer <|> environment.defaultRenderer
  charset := options.charset

/-- Do a task. -/
def Workshop.perform (workshop : Workshop) (known : Text → Option Text) : Task → Report
  | .check files => workshop.check files
  | .negotiate file accept path => workshop.negotiate known file accept path

/-- Load the configuration and do the task. -/
def Invocation.report (invocation : Invocation) (host : Host) (view : FileView)
    (environment : Environment) : Report :=
  let overrides := invocation.options.overrides environment
  match Config.loadWith host.reader view invocation.options.config (some overrides) with
  | .error e => { failure := some e.message }
  | .ok config =>
      let workshop : Workshop := { view, registry := host.registry, settings := config.settings }
      (workshop.perform host.known invocation.task).withEvents (loadedEvents config)

/-- What a run writes and how it ends. -/
structure Outcome where
  exitCode : Nat
  log : List Text := []
  lines : List Text := []
  deriving DecidableEq

/-- The paths that doing the task may read, with those of the configuration first. -/
def Invocation.paths (invocation : Invocation) (workingDirectory : List Text) : List Text :=
  let configuration :=
    match invocation.options.config with
    | some path => [path]
    | none => FileView.candidates workingDirectory Config.fileName
  match invocation.task with
  | .check files => configuration ++ files
  | .negotiate file _ _ => configuration ++ [file]

/-- The name and the version of the program. -/
def versionLine : Text := "sp 0.1.0"

/-- The events that a run writes: with `verbose` all but the details, otherwise what the
environment asks for. -/
def Options.logFilter (options : Options) (environment : Environment) : LogFilter :=
  if options.verbose then .upTo EventLevel.info.detail
  else .ofText (environment.log.getD [])

/-- The remarks on what the environment asks to be written. -/
def Options.logRemarks (options : Options) (environment : Environment) : List Text :=
  if options.verbose then [] else LogFilter.remarks (environment.log.getD [])

/-- Run the program. -/
def run (host : Host) (view : FileView) (environment : Environment) (arguments : List Text) :
    Outcome :=
  match Invocation.ofArguments arguments with
  | .error .misuse => { exitCode := 2 }
  | .error .version => { exitCode := 0, log := [versionLine] }
  | .error .help => { exitCode := 0 }
  | .ok invocation =>
      let report := invocation.report host view environment
      let filter := invocation.options.logFilter environment
      { exitCode := if report.failure.isSome then 1 else 0
        log := (report.events.filter filter.admits).map Event.line
        lines := invocation.options.logRemarks environment ++ report.allLines }

end Multipage.Command
