import FailOpen.Engine.Call
import FailOpen.Startup.Config
import FailOpen.Traffic.Basic

/-!
# Analyzers

The analysis side of an engine, freed from the boundary: it is started with a configuration and
then decides about exchanges and takes traces.  An analyzer is given by how it answers.  What it
remembers is all that it can know: an instance knows the configuration it was started with and
everything handed to it since, and the code itself knows everything that it was asked since it was
mapped, even by startups that it refused.  An answer may depend on any of it.
-/

namespace FailOpen
namespace Analyzer

/-- A call that reaches an analyzer. -/
inductive Request where
  | start (config : Startup.Config)
  | block (exchange : Traffic.Exchange)
  | ingest (trace : Traffic.Trace)
  deriving DecidableEq

/-- A started analyzer: its configuration and what it has been handed since, oldest first. -/
structure Instance where
  config : Startup.Config
  received : List Request := []
  deriving DecidableEq

/-- The instance after one more request. -/
def Instance.receive (started : Instance) (request : Request) : Instance :=
  { started with received := started.received ++ [request] }

/-- The number of traces handed to an instance. -/
def Instance.ingested (started : Instance) : Nat :=
  started.received.countP fun
    | .ingest _ => true
    | _ => false

/-- What the code of an analyzer keeps: everything it was asked, oldest first, and the slot for a
started instance. -/
structure Memory where
  asked : List Request := []
  slot : Option Instance := none
  deriving DecidableEq

end Analyzer

/-- How an analyzer answers, given what it was asked before. -/
structure Analyzer where
  /-- Accepts a configuration, or refuses it with a reason. -/
  start : List Analyzer.Request → Startup.Config → Outcome (Except String Unit)
  block : List Analyzer.Request → Analyzer.Instance → Traffic.Exchange → Outcome Bool
  ingest : List Analyzer.Request → Analyzer.Instance → Traffic.Trace → Outcome Unit

end FailOpen
