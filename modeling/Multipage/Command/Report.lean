/-
# Multipage.Command.Report -- what a task leaves behind

Lines for whoever gave the task, and events for the log.  A task that fails says why in its last
line.
-/
import Multipage.Event

namespace Multipage.Command

set_option autoImplicit false

structure Report where
  lines : List Text := []
  events : List Event := []
  /-- Why the task failed, if it did. -/
  failure : Option Text := none
  deriving DecidableEq

namespace Report

/-- A report that opens with these events. -/
def withEvents (events : List Event) (report : Report) : Report :=
  { report with events := events ++ report.events }

/-- The lines with the line of a failure behind them. -/
def allLines (report : Report) : List Text :=
  report.lines ++ (report.failure.map fun message => "Error: ".toList ++ message).toList

end Report
end Multipage.Command
