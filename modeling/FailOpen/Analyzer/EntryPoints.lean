import FailOpen.Analyzer.Basic
import FailOpen.Traffic.Read

/-!
# Entry points around an analyzer

The three entry points that make an engine of an analyzer.  They share one slot, which holds at most
one started instance: a startup fills it if it is empty, and never changes it afterwards.  No panic
leaves an entry point; a decision that panics is a decision not to block.
-/

namespace FailOpen
namespace Analyzer

/-- What an entry point reports in its log. -/
inductive Event where
  | started
  | startupFailed (reason : String)
  | startupPanicked
  | ingestPanicked
  deriving DecidableEq, Repr

/-- What an entry point does that can be seen from outside. -/
inductive Note where
  /-- The analyzer is called. -/
  | reached (request : Request)
  | logged (event : Event)
  deriving DecidableEq

/-- How an entry point ends: what is kept then, its answer, and what it did on the way. -/
structure Ending (α : Type) extends Memory where
  answer : α
  notes : List Note := []

/-- The startup entry point. -/
def startupEntry (analyzer : Analyzer) (memory : Memory) (args : Startup.RawArguments) :
    Ending UInt8 :=
  match memory.slot with
  | some _ => { memory with answer := 1 }
  | none =>
    let config := args.config
    let asked := memory.asked ++ [.start config]
    match analyzer.start memory.asked config with
    | .returned (.ok ()) =>
      { asked
        slot := some { config }
        answer := 1
        notes := [.reached (.start config), .logged .started] }
    | .returned (.error reason) =>
      { asked, answer := 0, notes := [.reached (.start config), .logged (.startupFailed reason)] }
    | .panicked =>
      { asked, answer := 0, notes := [.reached (.start config), .logged .startupPanicked] }

/-- The block entry point. -/
def blockEntry (analyzer : Analyzer) (memory : Memory) (exchange : Traffic.Record.Exchange) :
    Ending UInt8 :=
  match memory.slot with
  | none => { memory with answer := 0 }
  | some started =>
    let request := Request.block exchange.read
    let blocked :=
      match analyzer.block memory.asked started exchange.read with
      | .returned blocked => blocked
      | .panicked => false
    { asked := memory.asked ++ [request]
      slot := some (started.receive request)
      answer := if blocked then 1 else 0
      notes := [.reached request] }

/-- The ingest entry point. -/
def ingestEntry (analyzer : Analyzer) (memory : Memory) (trace : Traffic.Record.Trace) :
    Ending Unit :=
  match memory.slot with
  | none => { memory with answer := () }
  | some started =>
    let request := Request.ingest trace.read
    let reports :=
      match analyzer.ingest memory.asked started trace.read with
      | .returned () => []
      | .panicked => [.logged .ingestPanicked]
    { asked := memory.asked ++ [request]
      slot := some (started.receive request)
      answer := ()
      notes := .reached request :: reports }

end Analyzer
end FailOpen
