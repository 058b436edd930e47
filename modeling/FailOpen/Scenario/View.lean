import FailOpen.Scenario.Basic

/-!
# What a scenario shows

The part of a report that can be seen from outside: the calls that reach engines supplied for the
purpose of being watched, the lines for operators, and the log.  What happens inside a mapped
library cannot be seen.
-/

namespace FailOpen
namespace Scenario

open Host (Observation Report)

/-- What a watched engine has received. -/
inductive Payload where
  /-- As it crossed the boundary. -/
  | raw (call : Call)
  /-- As its analyzer was handed it. -/
  | read (request : Analyzer.Request)

/-- A call that reached a watched engine, and the reports of the steps made inside it. -/
structure WatchedCall where
  engine : String
  payload : Payload
  nested : Option (List Report) := none

/-- The name under which the recorder's calls are shown. -/
def recorderName : String := "recording"

/-- The call in an observation, if its engine is watched. -/
def watchedCall? (scenario : Scenario) : Observation Report → Option WatchedCall
  | .called (.custom name) call nested _ => some ⟨name, .raw call, nested⟩
  | .called (.code (.linked unit)) call nested _ =>
    match scenario.units.lookup unit with
    | some (name, .coded _) => some ⟨name, .raw call, nested⟩
    | _ => none
  | .analyzed (.linked unit) request =>
    match scenario.units.lookup unit with
    | some (_, .recorder _) => some ⟨recorderName, .read request, none⟩
    | _ => none
  | _ => none

/-- The calls that reached watched engines in a step, in order. -/
def watchedCalls (scenario : Scenario) (report : Report) : List WatchedCall :=
  report.output.filterMap scenario.watchedCall?

/-- The lines in an observation.  What is printed for operators is one line for the bridge, but it
takes several when a path in it holds line breaks. -/
def printedLines : Observation Report → List String
  | .printed line => Text.split '\n' line
  | _ => []

/-- The lines for operators that a step printed, in order. -/
def lines (report : Report) : List String :=
  report.output.flatMap printedLines

/-- The log entry in an observation, if it was made outside mapped libraries.  A process registers
its cleanup once, so that entry does not belong to any one scenario. -/
def entry? : Observation Report → Option LogEntry
  | .logged .exitCleanupRegistered => none
  | .logged event => some event.entry
  | .analyzerLogged (.linked _) event => some event.entry
  | _ => none

/-- The log entries that a step made outside mapped libraries, in order. -/
def entries (report : Report) : List LogEntry :=
  report.output.filterMap entry?

end Scenario
end FailOpen
