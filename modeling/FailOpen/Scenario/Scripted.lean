import FailOpen.Host.Setup

/-!
# Scripted engines

Engines whose answers are written down beforehand.  Each kind of call has one rule for its answer,
and may have steps that the engine makes inside the first call of that kind.
-/

namespace FailOpen
namespace Scenario

open Host (Reaction Step CustomEngine EntryCode)

/-- The steps that an engine makes inside its first calls. -/
structure Hooks where
  onStartup : Option (List Step) := none
  onBlock : Option (List Step) := none
  onIngest : Option (List Step) := none
  deriving DecidableEq, Inhabited

/-- The steps to be made in the next call of an entry point, given the calls before it. -/
def Hooks.callbacks (hooks : Hooks) (before : List Call) (point : EntryPoint) :
    Option (List Step) :=
  if point.isFresh before then
    match point with
    | .startup => hooks.onStartup
    | .block => hooks.onBlock
    | .ingest => hooks.onIngest
  else none

/-- How an engine reacts that makes its steps and then answers, whatever they result in. -/
def Hooks.reaction {α : Type} (hooks : Hooks) (before : List Call) (point : EntryPoint)
    (answer : α) : Reaction α :=
  match hooks.callbacks before point with
  | none => .answer answer
  | some steps => .callBack (.ofSteps steps answer)

/-- The number of calls that have steps to be made inside them. -/
def Hooks.count (hooks : Hooks) : Nat :=
  [hooks.onStartup, hooks.onBlock, hooks.onIngest].countP Option.isSome

inductive StartupRule where
  | accept
  | reject
  | panic
  deriving DecidableEq, Repr

inductive BlockRule where
  | always
  | never
  /-- Blocks what is incoming. -/
  | incoming
  | panic
  deriving DecidableEq, Repr

inductive IngestRule where
  | accept
  | panic
  deriving DecidableEq, Repr

def StartupRule.answer : StartupRule → Outcome Bool
  | .accept => .returned true
  | .reject => .returned false
  | .panic => .panicked

def BlockRule.answer (rule : BlockRule) (exchange : Traffic.Record.Exchange) : Outcome Bool :=
  match rule with
  | .always => .returned true
  | .never => .returned false
  | .incoming => .returned exchange.origin.incoming
  | .panic => .panicked

def IngestRule.answer : IngestRule → Outcome Unit
  | .accept => .returned ()
  | .panic => .panicked

/-- A custom engine by rules. -/
structure Script where
  startup : StartupRule := .accept
  block : BlockRule := .never
  ingest : IngestRule := .accept
  hooks : Hooks := {}
  deriving DecidableEq, Inhabited

def Script.engine (script : Script) : CustomEngine where
  startup before _ := script.hooks.reaction before .startup script.startup.answer
  block before exchange := script.hooks.reaction before .block (script.block.answer exchange)
  ingest before _ := script.hooks.reaction before .ingest script.ingest.answer

/-- Entry points by their bytes. -/
structure CodedScript where
  startup : UInt8 := 1
  /-- The answer to every exchange; if absent, one for what is incoming and zero otherwise. -/
  block : Option UInt8 := none
  hooks : Hooks := {}
  deriving DecidableEq, Inhabited

def CodedScript.entryCode (script : CodedScript) : EntryCode where
  startup before _ := script.hooks.reaction before .startup script.startup
  block before exchange :=
    script.hooks.reaction before .block
      (script.block.getD (if exchange.origin.incoming then 1 else 0))
  ingest before _ := script.hooks.reaction before .ingest ()

end Scenario
end FailOpen
