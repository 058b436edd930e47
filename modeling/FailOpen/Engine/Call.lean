import FailOpen.Startup.Arguments
import FailOpen.Traffic.Record

/-!
# Calls into an engine

The three entry points of an engine and the calls that reach them, with exactly the data that
crosses the boundary.
-/

namespace FailOpen

/-- How a call that may unwind ends. -/
inductive Outcome (α : Type) where
  | returned (value : α)
  | panicked
  deriving DecidableEq, Repr

/-- The entry points that a library must export. -/
inductive EntryPoint where
  | startup
  | block
  | ingest
  deriving DecidableEq, Repr

namespace EntryPoint

/-- The exported name. -/
def symbol : EntryPoint → String
  | .startup => "metlo_startup"
  | .block => "metlo_block_trace"
  | .ingest => "metlo_ingest_trace"

/-- Where a name is wanted, an entry point stands for the name it is exported under. -/
instance : Coe EntryPoint String := ⟨symbol⟩

/-- All entry points, in the order in which they are resolved. -/
def all : List EntryPoint :=
  [.startup, .block, .ingest]

end EntryPoint

/-- A call that reaches an engine or an entry point. -/
inductive Call where
  | startup (args : Startup.RawArguments)
  | block (exchange : Traffic.Record.Exchange)
  | ingest (trace : Traffic.Record.Trace)
  deriving DecidableEq

/-- The entry point that a call uses. -/
def Call.entryPoint : Call → EntryPoint
  | .startup _ => .startup
  | .block _ => .block
  | .ingest _ => .ingest

/-- Whether none of the given calls used an entry point. -/
def EntryPoint.isFresh (point : EntryPoint) (calls : List Call) : Bool :=
  calls.all fun call => call.entryPoint != point

end FailOpen
