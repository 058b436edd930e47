import FailOpen.Bridge.Event
import FailOpen.Startup.Options

/-!
# Steps of a host

What a host does, one step at a time, and what each step shows.  An engine that calls back performs
such steps too, so a report can hold the reports of steps that were made inside a call.
-/

namespace FailOpen
namespace Host

/-- The bridge that a host made for itself, or the one that backs the exported functions. -/
inductive BridgeName where
  | own
  | shared
  deriving DecidableEq, Repr

/-- The operations of a bridge.  Engines are given by name. -/
inductive Operation where
  | startInstalled (args : Startup.Arguments)
  | startFrom (path : String) (args : Startup.Arguments)
  | startSupplied (engine : String) (args : Startup.Arguments)
  | disable (reason : Bridge.Reason)
  | decideBlock (exchange : Traffic.Record.Exchange)
  | ingest (trace : Traffic.Record.Trace)
  | shutdown
  deriving DecidableEq

/-- Whether an operation is an attempt to start an engine. -/
def Operation.isAttempt : Operation → Bool
  | .startInstalled _ | .startFrom _ _ | .startSupplied _ _ => true
  | _ => false

/-- The functions that are exported to hosts in other languages.  They work on the shared
bridge. -/
inductive Exported where
  | startup (args : Startup.RawArguments)
  | block (exchange : Traffic.Record.Exchange)
  | ingest (trace : Traffic.Record.Trace)
  | cleanup
  deriving DecidableEq

/-- What can be asked of an engine without a bridge. -/
inductive Direct where
  | name
  | shown
  | startup (args : Startup.Arguments)
  | block (exchange : Traffic.Record.Exchange)
  | ingest (trace : Traffic.Record.Trace)
  deriving DecidableEq

inductive Step where
  | bridge (name : BridgeName) (operation : Operation)
  | display (name : BridgeName)
  | exported (function : Exported)
  | engine (name : String) (request : Direct)
  /-- Calls an entry point of a native engine. -/
  | entry (name : String) (call : Call)
  /-- Stores something at the install path. -/
  | install (contents : Loader.Contents)
  | uninstall
  | isMapped (file : String)
  /-- Counts the traces that the analyzers in linked units have been handed. -/
  | ingestedByUnits (units : List String)
  | ingestedByFile (file : String)
  /-- Startup arguments that could not be made. -/
  | refused (fault : Startup.NulFault)
  deriving DecidableEq

inductive Result where
  | done
  | flag (b : Bool)
  | number (n : Nat)
  | text (s : String)
  | refused (fault : Startup.NulFault)
  deriving DecidableEq

/-- Whose code runs in a call. -/
inductive Party where
  | custom (name : String)
  | code (code : Code)
  deriving DecidableEq, Repr

/-- How a call ends: custom engines return or panic, entry points answer with a byte or with
nothing. -/
inductive Answer where
  | verdict (outcome : Outcome Bool)
  | finished (outcome : Outcome Unit)
  | byte (code : UInt8)
  | nothing
  deriving DecidableEq, Repr

/-- Something that can be observed while a step is made.  `ρ` are the reports of the steps that an
engine makes when it calls back. -/
inductive Observation (ρ : Type) where
  /-- A call to an engine or an entry point. -/
  | called (party : Party) (call : Call) (nested : Option (List ρ)) (answer : Answer)
  /-- An entry point calls its analyzer. -/
  | analyzed (code : Code) (request : Analyzer.Request)
  | logged (event : Bridge.Event)
  | analyzerLogged (code : Code) (event : Analyzer.Event)
  /-- A line for operators. -/
  | printed (line : String)

/-- What a step shows: its result, what was observed, and the state of both bridges after it. -/
structure Report where
  step : Step
  result : Result
  output : List (Observation Report)
  own : Bridge.State
  shared : Bridge.State

/-- The state of one of the bridges. -/
def Report.state (report : Report) : BridgeName → Bridge.State
  | .own => report.own
  | .shared => report.shared

end Host
end FailOpen
