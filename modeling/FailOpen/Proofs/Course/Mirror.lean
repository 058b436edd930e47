import FailOpen.Proofs.Timeline.Tracks
import Mathlib.Data.List.Forall2

/-!
# The same steps without exported functions

Every exported function is an operation of the shared bridge.  `Step.plain` replaces it by that
operation, made on the bridge that a host has for itself, and `Setup.plain` does so in everything
that code does when it calls back.  The two bridges change places: what happened to the shared
bridge happens to the host's own, and the other way round.  Code that calls back goes on as it would
have gone on with the results of the exported functions: `Step.spells` translates what the plain
operation results in.

* `Observation.Mirrors` and `Report.Mirrors` say what it means that a run shows the same as its
  plain counterpart: the same calls with the same answers, the same states of the bridges, and
  results that say the same.  What exported functions say beyond that comes before it or after it.
* `Mirrors` relates the processes, and `Goes.mirrored` is the heart of the matter: an operation goes
  the same way in both of them.
-/

namespace FailOpen
namespace Host

/-! ## Plain steps -/

/-- The other bridge. -/
def BridgeName.other : BridgeName → BridgeName
  | .own => .shared
  | .shared => .own

/-- The step without exported functions, with the bridges exchanged. -/
def Step.plain : Step → Step
  | .exported function => .bridge .own function.operation
  | .bridge name operation => .bridge name.other operation
  | .display name => .display name.other
  | step => step

/-- The result of an exported function, by the result of the operation that it is. -/
def Exported.spells : Exported → Result → Result
  | .ingest _, _ | .cleanup, _ => .done
  | _, .flag b => .number (if b then 1 else 0)
  | _, _ => .number 0

/-- The result of a step, by the result of the plain step. -/
def Step.spells : Step → Result → Result
  | .exported function, plain => function.spells plain
  | _, plain => plain

/-- The routine with plain steps, which goes on as the routine would. -/
def Routine.plain {α : Type} : Routine α → Routine α
  | .answer a => .answer a
  | .step first next => .step first.plain fun result? => (next (result?.map first.spells)).plain

def Reaction.plain {α : Type} : Reaction α → Reaction α
  | .answer a => .answer a
  | .callBack routine => .callBack routine.plain

theorem Routine.plain_map {α β : Type} (f : α → β) (routine : Routine α) :
    (routine.map f).plain = routine.plain.map f := by
  induction routine with
  | answer a => rfl
  | step first next ih =>
    show Routine.step first.plain _ = .step first.plain _
    exact congrArg (Routine.step first.plain) (funext fun result? => ih (result?.map first.spells))

theorem Reaction.plain_map {α β : Type} (f : α → β) (reaction : Reaction α) :
    (reaction.map f).plain = reaction.plain.map f := by
  cases reaction with
  | answer a => rfl
  | callBack routine => exact congrArg Reaction.callBack (routine.plain_map f)

/-- A custom engine that calls back by plain steps. -/
def CustomEngine.plain (engine : CustomEngine) : CustomEngine where
  startup before args := (engine.startup before args).plain
  block before exchange := (engine.block before exchange).plain
  ingest before trace := (engine.ingest before trace).plain

/-- Entry points that call back by plain steps. -/
def EntryCode.plain (code : EntryCode) : EntryCode where
  startup before args := (code.startup before args).plain
  block before exchange := (code.block before exchange).plain
  ingest before trace := (code.ingest before trace).plain

def Program.plain : Program → Program
  | .coded entryCode => .coded entryCode.plain
  | .analyzer inner => .analyzer inner

/-- The code of a process, calling back by plain steps. -/
def Setup.plain (setup : Setup) : Setup where
  supplied := setup.supplied
  custom name := (setup.custom name).plain
  linked unit := (setup.linked unit).plain
  library file := { setup.library file with program := (setup.library file).program.plain }
  registersAtExit := setup.registersAtExit

theorem program_plain (setup : Setup) (code : Code) :
    setup.plain.program code = (setup.program code).plain := by
  cases code <;> rfl

/-! ## What mirrors what -/

/-- The results say the same.  An exported function answers with the bytes one and zero, or with
nothing. -/
def Step.SaysAlike (step : Step) (result plain : Result) : Prop :=
  match step with
  | .exported (.startup raw) =>
      match raw.arguments? with
      | none => result = .number 0 ∧ plain = .done
      | some _ => ∃ b : Bool, result = .number (if b then 1 else 0) ∧ plain = .flag b
  | .exported (.block _) => ∃ b : Bool, result = .number (if b then 1 else 0) ∧ plain = .flag b
  | .exported (.ingest _) => result = .done ∧ plain = .done
  | .exported .cleanup => result = .done ∧ ∃ b : Bool, plain = .flag b
  | _ => result = plain

/-- So one is read off the other. -/
theorem Step.SaysAlike.spells_eq {step : Step} {result plain : Result}
    (h : step.SaysAlike result plain) : step.spells plain = result := by
  cases step with
  | exported function =>
    cases function with
    | startup raw =>
      unfold SaysAlike at h
      cases hraw : raw.arguments? with
      | none =>
        simp only [hraw] at h
        obtain ⟨rfl, rfl⟩ := h
        rfl
      | some args =>
        simp only [hraw] at h
        obtain ⟨b, rfl, rfl⟩ := h
        rfl
    | block exchange =>
      obtain ⟨b, rfl, rfl⟩ := h
      rfl
    | ingest trace => exact h.1.symm
    | cleanup => exact h.1.symm
  | _ => exact Eq.symm h

/-- The observations are the same, but for the reports of the steps made inside a call. -/
inductive Observation.Mirrors (R : Report → Report → Prop) :
    Observation Report → Observation Report → Prop
  | called {party : Party} {call : Call} {nested nested' : Option (List Report)} {answer : Answer}
      (h : Option.Rel (List.Forall₂ R) nested nested') :
      Mirrors R (.called party call nested answer) (.called party call nested' answer)
  | quiet {observation : Observation Report} (h : observation.isQuiet) :
      Mirrors R observation observation

/-- A step shows the same as the plain step, nothing before it but its preface, and nothing after it
but what an exported startup says of the cleanup at exit. -/
inductive Report.Mirrors : Report → Report → Prop
  | mk {report plain : Report} {output : List (Observation Report)} {exit : Option Bridge.Event}
      (step : plain.step = report.step.plain)
      (result : report.step.SaysAlike report.result plain.result)
      (around : report.output = report.step.preface ++ output ++ exit.toList.map .logged)
      (exit : ∀ event ∈ exit, report.step.isExportedStart ∧ event.isExit)
      (mirrored : List.Forall₂ (Observation.Mirrors Report.Mirrors) output plain.output)
      (own : plain.own = report.shared) (shared : plain.shared = report.own) :
      Mirrors report plain

/-- The bridges of the process are exchanged in its mirror, and everything else is the same but the
record of the cleanup at exit, which the mirror has no use for.  The output begins with something
that is not mirrored. -/
structure Mirrors (preface : List (Observation Report)) (host mirror : Host) : Prop where
  own : mirror.own = host.shared
  shared : mirror.shared = host.own
  loader : mirror.loader = host.loader
  received : mirror.received = host.received
  linked : mirror.linked = host.linked
  exit : mirror.exitCleanup = false ∧ mirror.exitFailures = 0
  output : ∃ output, host.output = preface ++ output ∧
    List.Forall₂ (Observation.Mirrors Report.Mirrors) output mirror.output

theorem Quiet.mirrors {notes : List (Observation Report)} (h : Quiet notes) :
    List.Forall₂ (Observation.Mirrors Report.Mirrors) notes notes :=
  List.forall₂_same.mpr fun _ hmem => .quiet (h _ hmem)

namespace Mirrors

variable {preface : List (Observation Report)} {host mirror : Host}

theorem bridge (h : Mirrors preface host mirror) (name : BridgeName) :
    mirror.bridge name.other = host.bridge name := by
  cases name with
  | own => exact h.shared
  | shared => exact h.own

theorem statics (h : Mirrors preface host mirror) : mirror.statics = host.statics := by
  funext code
  cases code with
  | linked unit => exact congrFun h.linked unit
  | image file => exact congrArg (Loader.statics · file) h.loader

theorem observe (h : Mirrors preface host mirror) {notes notes' : List (Observation Report)}
    (hnotes : List.Forall₂ (Observation.Mirrors Report.Mirrors) notes notes') :
    Mirrors preface (host.observe notes) (mirror.observe notes') := by
  obtain ⟨output, houtput, hmirrored⟩ := h.output
  refine ⟨h.own, h.shared, h.loader, h.received, h.linked, h.exit, output ++ notes, ?_,
    List.rel_append hmirrored hnotes⟩
  rw [output_observe, houtput, List.append_assoc]

theorem quietly (h : Mirrors preface host mirror) {notes : List (Observation Report)}
    (hnotes : Quiet notes) : Mirrors preface (host.observe notes) (mirror.observe notes) :=
  h.observe hnotes.mirrors

/-- The same change to the loader. -/
theorem withLoader (h : Mirrors preface host mirror) (loader : Loader) :
    Mirrors preface { host with loader } { mirror with loader } :=
  ⟨h.own, h.shared, rfl, h.received, h.linked, h.exit, h.output⟩

theorem holding (h : Mirrors preface host mirror) (module : Option Loader.Module) :
    Mirrors preface (host.holding module) (mirror.holding module) := by
  cases module with
  | none => exact h
  | some module =>
    unfold Host.holding
    rw [h.loader]
    exact h.withLoader _

theorem lettingGo (h : Mirrors preface host mirror) (module : Option Loader.Module) :
    Mirrors preface (host.lettingGo module) (mirror.lettingGo module) := by
  cases module with
  | none => exact h
  | some module =>
    unfold Host.lettingGo
    rw [h.loader]
    exact h.withLoader _

theorem setBridge (h : Mirrors preface host mirror) (name : BridgeName) (next : Bridge.State) :
    Mirrors preface (host.setBridge name next) (mirror.setBridge name.other next) := by
  cases name with
  | own => exact ⟨h.own, rfl, h.loader, h.received, h.linked, h.exit, h.output⟩
  | shared => exact ⟨rfl, h.shared, h.loader, h.received, h.linked, h.exit, h.output⟩

theorem replacing (h : Mirrors preface host mirror) (name : BridgeName) (next : Bridge.State) :
    Mirrors preface (host.replacing name next) (mirror.replacing name.other next) := by
  unfold Host.replacing
  rw [h.bridge name]
  exact ((h.setBridge name next).lettingGo _).lettingGo _

theorem loaded (h : Mirrors preface host mirror) (path : String) (loader : Loader) :
    Mirrors preface (host.loaded path loader) (mirror.loaded path loader) :=
  (h.withLoader loader).quietly (.append (quiet_logged _) (quiet_logged _))

theorem withDisk (h : Mirrors preface host mirror) (disk : Loader.Disk) :
    Mirrors preface (host.withDisk disk) (mirror.withDisk disk) := by
  unfold Host.withDisk
  rw [h.loader]
  exact h.withLoader _

theorem receiveCustom (h : Mirrors preface host mirror) (name : String) (call : Call) :
    Mirrors preface (host.receiveCustom name call) (mirror.receiveCustom name call) := by
  unfold Host.receiveCustom
  rw [h.received]
  exact ⟨h.own, h.shared, h.loader, rfl, h.linked, h.exit, h.output⟩

theorem modifyStatics (h : Mirrors preface host mirror) (code : Code)
    (f : Loader.Statics → Loader.Statics) :
    Mirrors preface (host.modifyStatics code f) (mirror.modifyStatics code f) := by
  cases code with
  | linked unit =>
    unfold Host.modifyStatics
    simp only [h.linked]
    exact ⟨h.own, h.shared, h.loader, h.received, rfl, h.exit, h.output⟩
  | image file =>
    unfold Host.modifyStatics
    simp only [h.loader]
    exact h.withLoader _

theorem receiveCode (h : Mirrors preface host mirror) (code : Code) (call : Call) :
    Mirrors preface (host.receiveCode code call) (mirror.receiveCode code call) :=
  h.modifyStatics code _

end Mirrors

/-! ## Frames -/

/-- What has been taken up in the mirror. -/
def Frame.mirror : Frame → Frame
  | .attempt name engine module => .attempt name.other engine module
  | .deciding engine => .deciding engine
  | .ingesting engine => .ingesting engine

theorem Frame.yields_mirror (frame : Frame) (answer : Answer) :
    frame.mirror.yields answer = frame.yields answer := by
  cases frame <;> rfl

theorem Mirrors.leave {preface : List (Observation Report)} {host mirror : Host}
    (h : Mirrors preface host mirror) (frame : Frame) (answer : Answer) :
    Mirrors preface (frame.leave answer host) (frame.mirror.leave answer mirror) := by
  cases frame with
  | attempt name engine module =>
    unfold Frame.leave Frame.mirror
    rcases answer.startup with started | _
    · cases started with
      | true => exact (h.quietly (quiet_logged _)).replacing name _
      | false => exact ((h.quietly (quiet_logged _)).lettingGo _).replacing name _
    · exact ((h.quietly (quiet_logged _)).lettingGo _).replacing name _
  | deciding engine =>
    unfold Frame.leave Frame.mirror
    cases answer.decision with
    | returned block => exact (h.quietly (quiet_logged _)).lettingGo _
    | panicked => exact (h.quietly (quiet_logged _)).lettingGo _
  | ingesting engine =>
    unfold Frame.leave Frame.mirror
    cases answer.ingestion with
    | returned done => exact h.lettingGo _
    | panicked => exact (h.quietly (quiet_logged _)).lettingGo _

/-! ## Visits -/

/-- The same call in the mirror, of code that does the same by plain steps. -/
structure Visit.Mirrors (preface : List (Observation Report)) (visit mirror : Visit) : Prop where
  party : mirror.party = visit.party
  call : mirror.call = visit.call
  reaction : mirror.reaction = visit.reaction.plain
  notes : mirror.notes = visit.notes
  quiet : Quiet visit.notes
  host : Host.Mirrors preface visit.host mirror.host

section

variable {setup : Setup} {preface : List (Observation Report)} {host mirror : Host}

theorem CustomEngine.reaction_plain (engine : CustomEngine) (before : List Call) (demand : Demand) :
    engine.plain.reaction before demand = (engine.reaction before demand).plain := by
  cases demand <;> exact (Reaction.plain_map _ _).symm

theorem EntryCode.reaction_plain (code : EntryCode) (before : List Call) (call : Call) :
    code.plain.reaction before call = (code.reaction before call).plain := by
  cases call <;> exact (Reaction.plain_map _ _).symm

theorem Mirrors.customVisit (h : Mirrors preface host mirror) (name : String) (demand : Demand) :
    (Host.customVisit setup host name demand).Mirrors preface
      (Host.customVisit setup.plain mirror name demand) := by
  have hreaction : (setup.plain.custom name).reaction (mirror.received name) demand =
      ((setup.custom name).reaction (host.received name) demand).plain := by
    rw [h.received]
    exact CustomEngine.reaction_plain _ _ _
  unfold Host.customVisit
  rw [hreaction]
  exact ⟨rfl, rfl, rfl, rfl, .nil, h.receiveCustom name demand.call⟩

theorem Mirrors.entryVisit (h : Mirrors preface host mirror) (code : Code) (call : Call) :
    (Host.entryVisit setup host code call).Mirrors preface
      (Host.entryVisit setup.plain mirror code call) := by
  unfold Host.entryVisit
  have hreceived := h.receiveCode code call
  rw [program_plain]
  cases setup.program code with
  | coded entryCode =>
    simp only [Program.plain, EntryCode.reaction_plain, h.statics]
    exact ⟨rfl, rfl, rfl, rfl, .nil, hreceived⟩
  | analyzer analyzer =>
    simp only [Program.plain, hreceived.statics]
    refine ⟨rfl, rfl, rfl, rfl, quiet_noteObservation code _, ?_⟩
    dsimp only
    exact hreceived.modifyStatics code _

/-- The same engine is visited in the mirror, or none. -/
theorem Mirrors.visitOf (h : Mirrors preface host mirror) (engine : Engine) (demand : Demand) :
    Option.Rel (Visit.Mirrors preface) (Host.visitOf setup host engine demand)
      (Host.visitOf setup.plain mirror engine demand) := by
  cases engine with
  | inert => exact .none
  | custom name => exact .some (h.customVisit name demand)
  | native native => exact .some (h.entryVisit native.code demand.call)

theorem Mirrors.exists_visitOf (h : Mirrors preface host mirror) {engine : Engine} {demand : Demand}
    {visit : Visit} (hvisit : Host.visitOf setup host engine demand = some visit) :
    ∃ visit', Host.visitOf setup.plain mirror engine demand = some visit' ∧
      visit.Mirrors preface visit' := by
  have hrel : Option.Rel _ (Host.visitOf setup host engine demand) _ := h.visitOf engine demand
  rw [hvisit] at hrel
  exact exists_of_rel_some hrel

/-! ## The courses of operations -/

/-- A course and the course of the same operation in the mirror. -/
inductive Course.Mirrors (preface : List (Observation Report)) : Course → Course → Prop
  | pass {next next' : Host} (h : Host.Mirrors preface next next') :
      Mirrors preface (.pass next) (.pass next')
  | replace {name : BridgeName} {next : Bridge.State} {start start' : Host}
      {notes : List (Observation Report)} {b : Bool} (h : Host.Mirrors preface start start')
      (hnotes : Quiet notes) :
      Mirrors preface (.replace name next start notes b) (.replace name.other next start' notes b)
  | reach {frame : Frame} {visit visit' : Visit} (h : visit.Mirrors preface visit') :
      Mirrors preface (.reach frame visit) (.reach frame.mirror visit')

theorem supplies?_plain (setup : Setup) (operation : Operation) :
    operation.supplies? setup.plain = operation.supplies? setup := by
  cases operation <;> rfl

/-- **An operation goes the same way in the mirror, on the other bridge.** -/
theorem Goes.mirrored {name : BridgeName} {operation : Operation} {course : Course}
    (hgoes : Goes setup host name operation course) (h : Mirrors preface host mirror) :
    ∃ course', Goes setup.plain mirror name.other operation course' ∧
      course.Mirrors preface course' := by
  cases hgoes with
  | @loadFails path args fault hloads hload =>
    rw [← h.loader] at hload
    exact ⟨_, .loadFails hloads hload, .replace (h.quietly (quiet_diagnosis _)) .nil⟩
  | @lacks path args module loader missing hloads hload hmissing =>
    have hheld := (h.loaded path loader).holding (some module)
    rw [← h.loader] at hload
    rw [← hheld.loader] at hmissing
    exact ⟨_, .lacks hloads hload hmissing,
      .replace ((hheld.lettingGo (some module)).quietly (quiet_diagnosis _)) .nil⟩
  | @startsLoaded path args module loader visit hloads hload hcomplete hvisit =>
    have hheld := (h.loaded path loader).holding (some module)
    obtain ⟨visit', hvisit', hmirrors⟩ := hheld.exists_visitOf hvisit
    rw [← h.loader] at hload
    rw [← hheld.loader] at hcomplete
    exact ⟨_, .startsLoaded hloads hload hcomplete hvisit', .reach hmirrors⟩
  | refuses hsupplies =>
    rw [← supplies?_plain] at hsupplies
    exact ⟨_, .refuses hsupplies, .replace (h.quietly (quiet_logged _)) .nil⟩
  | startsSupplied hsupplies hvisit =>
    obtain ⟨visit', hvisit', hmirrors⟩ := h.exists_visitOf hvisit
    rw [← supplies?_plain] at hsupplies
    exact ⟨_, .startsSupplied hsupplies hvisit', .reach hmirrors⟩
  | disables hdisable =>
    exact ⟨_, .disables hdisable, .replace (h.quietly (quiet_logged _)) .nil⟩
  | @unheard demand hdemand hengine =>
    rw [← h.bridge name] at hengine
    refine ⟨_, .unheard hdemand hengine, .pass (h.quietly ?_)⟩
    cases demand <;> first | exact quiet_logged _ | exact .nil
  | @forwards engine demand visit hdemand hengine hvisit =>
    obtain ⟨visit', hvisit', hmirrors⟩ := (h.holding engine.module?).exists_visitOf hvisit
    rw [← h.bridge name] at hengine
    refine ⟨_, .forwards hdemand hengine hvisit', ?_⟩
    cases demand <;> exact .reach hmirrors
  | shutsDown hshutdown =>
    refine ⟨_, .shutsDown hshutdown, ?_⟩
    rw [h.bridge name]
    refine .replace h ?_
    split
    · exact quiet_logged _
    · exact .nil

end

end Host
end FailOpen
