import FailOpen.Host.Step

/-!
# The code around a bridge

Everything in a process that does not change while it runs: how custom engines, linked units and
library files behave.  Code is given by how it reacts to a call, which may depend on all calls it
has received before.  A reaction is an answer, preceded by the steps that the code makes when it
calls back; each of them, and the answer, may depend on the results of the steps before.  Entry
points answer with a byte and cannot panic; custom engines can.
-/

namespace FailOpen
namespace Host

/-- What code does when it calls back: it makes steps, goes on as their results say, and answers in
the end.  A step that is nested too deep is not performed and has no result. -/
inductive Routine (α : Type) where
  | answer (answer : α)
  | step (step : Step) (next : Option Result → Routine α)

/-- Makes the given steps, whatever their results are. -/
def Routine.ofSteps {α : Type} (steps : List Step) (answer : α) : Routine α :=
  steps.foldr (fun step rest => .step step fun _ => rest) (.answer answer)

/-- What code does in a call. -/
inductive Reaction (α : Type) where
  | answer (answer : α)
  /-- It calls back before it answers. -/
  | callBack (routine : Routine α)

/-- An engine supplied by the host. -/
structure CustomEngine where
  startup : List Call → Startup.Arguments → Reaction (Outcome Bool)
  block : List Call → Traffic.Record.Exchange → Reaction (Outcome Bool)
  ingest : List Call → Traffic.Record.Trace → Reaction (Outcome Unit)

/-- Three entry points written by hand. -/
structure EntryCode where
  startup : List Call → Startup.RawArguments → Reaction UInt8
  block : List Call → Traffic.Record.Exchange → Reaction UInt8
  ingest : List Call → Traffic.Record.Trace → Reaction Unit

/-- The code behind three entry points. -/
inductive Program where
  | coded (code : EntryCode)
  | analyzer (analyzer : Analyzer)

/-- A library that can be mapped. -/
structure Library where
  /-- The names that it exports. -/
  exports : List String
  /-- Whether a name is exported by a library that it needs. -/
  needed : String → Bool := fun _ => false
  program : Program

/-- Whether a name is found through a library: in itself, or in one that it needs. -/
def Library.finds (library : Library) (name : String) : Bool :=
  if name ∈ library.exports then true else library.needed name

namespace CustomEngine

/-- The custom engine that never starts. -/
def refusing : CustomEngine where
  startup _ _ := .answer (.returned false)
  block _ _ := .answer (.returned false)
  ingest _ _ := .answer (.returned ())

instance : Inhabited CustomEngine := ⟨refusing⟩

end CustomEngine

/-- Entry points that never start. -/
def EntryCode.refusing : EntryCode where
  startup _ _ := .answer 0
  block _ _ := .answer 0
  ingest _ _ := .answer ()

instance : Inhabited Program := ⟨.coded .refusing⟩

instance : Inhabited Library := ⟨{ exports := [], program := default }⟩

/-- An engine that a host can supply: it holds no module. -/
inductive SuppliedEngine where
  | inert
  | custom (name : String)
  | linked (unit : String)
  deriving DecidableEq, Repr

/-- A supplied engine as the bridge sees it. -/
def SuppliedEngine.engine : SuppliedEngine → Engine
  | .inert => .inert
  | .custom name => .custom name
  | .linked unit => .native { code := .linked unit }

theorem SuppliedEngine.module?_engine (supplied : SuppliedEngine) :
    supplied.engine.module? = none := by
  cases supplied <;> rfl

/-- The code of a process. -/
structure Setup where
  /-- What the names of engines stand for. -/
  supplied : String → SuppliedEngine := fun _ => .inert
  custom : String → CustomEngine := fun _ => default
  linked : String → Program := fun _ => default
  library : String → Library := fun _ => default
  /-- Whether the system registers a function to be called at exit, when it has failed to do so that
  many times. -/
  registersAtExit : Nat → Bool := fun _ => true

/-- The engine of a name. -/
def Setup.engine (setup : Setup) (name : String) : Engine :=
  (setup.supplied name).engine

/-- The program behind the entry points of some code. -/
def Setup.program (setup : Setup) : Code → Program
  | .linked unit => setup.linked unit
  | .image file => (setup.library file).program

end Host

/-- The state of a process. -/
structure Host where
  own : Bridge.State := .unloaded
  shared : Bridge.State := .unloaded
  loader : Loader
  /-- The calls that custom engines have received. -/
  received : String → List Call := fun _ => []
  /-- The data of linked units. -/
  linked : String → Loader.Statics := fun _ => {}
  /-- Whether the shared bridge is going to be cleaned up at exit. -/
  exitCleanup : Bool := false
  /-- How often it could not be registered for that. -/
  exitFailures : Nat := 0
  /-- What has been observed in the present step. -/
  output : List (Host.Observation Host.Report) := []

namespace Host

/-- The state of one of the bridges. -/
def bridge (host : Host) : BridgeName → Bridge.State
  | .own => host.own
  | .shared => host.shared

/-- Replaces the state of one of the bridges. -/
def setBridge (host : Host) (name : BridgeName) (state : Bridge.State) : Host :=
  match name with
  | .own => { host with own := state }
  | .shared => { host with shared := state }

/-- The data of some code; fresh if it is a file that is not mapped. -/
def statics (host : Host) : Code → Loader.Statics
  | .linked unit => host.linked unit
  | .image file => host.loader.statics file

/-- Changes the data of some code. -/
def modifyStatics (host : Host) (code : Code) (f : Loader.Statics → Loader.Statics) : Host :=
  match code with
  | .linked unit => { host with linked := update host.linked unit (f (host.linked unit)) }
  | .image file => { host with loader := host.loader.modifyStatics file f }

/-- Adds observations. -/
def observe (host : Host) (observations : List (Observation Report)) : Host :=
  { host with output := host.output ++ observations }

/-- A computation that changes the state of a process. -/
abbrev Act := StateM Host

/-- Performs a step that code makes when it calls back, unless it is nested too deep. -/
abbrev Runner := Step → Act (Option Report)

end Host
end FailOpen
