import FailOpen.Proofs.Loader.Resolve
import FailOpen.Proofs.Timeline.Basic

/-!
# What a report says about the states of the bridges

A report of a step is `Faithful` to the states in which the step began if its contacts, its result
and the states that it shows are those of the rules for bridges: a demand is answered by the engine
of the present state, an attempt publishes what the answer to its startup calls for, and a shutdown
shows whether a module was held.  The rules mention nothing but the report and the states before it.

`TrackedRun` says of a run that it leaves every bridge in the state of the last change that its
reports show, and that every report, at every depth, is faithful to the states at its own beginning.
`Timeline.Tracks` proves it of every run.
-/

namespace FailOpen
namespace Host

variable (setup : Setup)

/-- Whether the file of a module has an entry point, itself or through a library that it needs. -/
def Exports (module : Loader.Module) (point : EntryPoint) : Prop :=
  (setup.library module.file).finds point.symbol = true

/-- The entry points that are resolved before the given one. -/
def EntryPointsBefore (point : EntryPoint) : List EntryPoint :=
  EntryPoint.all.takeWhile (· ≠ point)

/-- The states that an attempt publishes, by whose startup was accepted in it. -/
inductive Published : Option Party → Bridge.State → Prop
  | loadFailed : Published none (.disabled .loadFailed none)
  | lacks {module : Loader.Module} {point : EntryPoint} (hlacks : ¬ Exports setup module point)
      (hbefore : ∀ earlier ∈ EntryPointsBefore point, Exports setup module earlier) :
      Published none (.disabled (.missingEntryPoint point.symbol) (some module))
  | rejected {module : Option Loader.Module}
      (hcomplete : ∀ held ∈ module, ∀ point, Exports setup held point) :
      Published none (.disabled .startupRejected module)
  | panicked {module : Option Loader.Module}
      (hcomplete : ∀ held ∈ module, ∀ point, Exports setup held point) :
      Published none (.disabled .startupPanicked module)
  | loaded {module : Loader.Module} (hcomplete : ∀ point, Exports setup module point) :
      Published (some (.code (.image module.file)))
        ⟨.initialized, engineIn module, some module⟩
  | supplied {engine : Engine} {party : Party} (hparty : partyOf engine = some party)
      (hmodule : engine.module? = none) :
      Published (some party) ⟨.initialized, engine, none⟩

/-- The truth value of an answer to a demand.  Only a decision has one. -/
def Demand.yields : Demand → Answer → Bool
  | .block _, answer => answer.blocks
  | _, _ => false

/-- A demand is answered by the given engine, which is called exactly once; the inert engine leads
nowhere and its answer is no. -/
def Answered (engine : Engine) (demand : Demand) (report : Report) : Prop :=
  match partyOf engine with
  | none => report.contacts = [] ∧ report.result = report.step.shows false
  | some party => ∃ nested answer,
      report.contacts = [⟨party, demand.call, nested, answer⟩] ∧
        report.result = report.step.shows (demand.yields answer)

/-- Whoever is called for a demand is the code that the engine leads to. -/
theorem Answered.partyOf_eq {engine : Engine} {demand : Demand} {report : Report}
    (h : Answered engine demand report) {contact : Contact} (hmem : contact ∈ report.contacts) :
    partyOf engine = some contact.party := by
  unfold Answered at h
  split at h
  · rw [h.1] at hmem
    cases hmem
  · rename_i party hparty
    obtain ⟨nested, answer, hcontacts, -⟩ := h
    rw [hcontacts] at hmem
    obtain rfl := List.mem_singleton.mp hmem
    exact hparty

/-- The report of a step agrees with the rules for bridges, given the states before the step. -/
structure Report.Faithful (before : BridgeName → Bridge.State) (report : Report) : Prop where
  states : ∀ name, report.state name = stateAfter before report.changes name
  demands : ∀ {name operation demand}, report.step.target? = some (name, operation) →
    operation.demand? = some demand → Answered (before name).engine demand report
  attempts : ∀ {name operation}, report.step.target? = some (name, operation) →
    operation.isAttempt → Published setup report.accepted? (report.state name) ∧
      report.result = report.step.shows report.accepted?.isSome
  disables : ∀ {name reason}, report.step.target? = some (name, .disable reason) →
    report.state name = .disabled reason none
  shutsDown : ∀ {name}, report.step.target? = some (name, .shutdown) →
    report.state name = .unloaded ∧ report.result = report.step.shows (before name).hasModule
  displays : ∀ {name}, report.step = .display name →
    report.result = .text (before name).shown

/-- All steps made in some reports, at all depths, are reported faithfully. -/
def Truthful (before : BridgeName → Bridge.State) (reports : List Report) : Prop :=
  ∀ occurrence ∈ timelineOf [] reports,
    occurrence.report.Faithful setup (stateAfter before occurrence.past)

/-- A run keeps the output of the present step, changes the bridges as its reports say, and is
reported truthfully. -/
def TrackedRun (host : Host) (ran : List Report × Host) : Prop :=
  ran.2.output = host.output ∧
    ran.2.bridge = stateAfter host.bridge (changesOf ran.1) ∧
    Truthful setup host.bridge ran.1

/-- All runs that a runner makes are tracked. -/
def Tracks (run : Runner) : Prop :=
  ∀ steps host, TrackedRun setup host ((run.all steps).run host)

/-! ## Timelines that begin later -/

/-- An occurrence seen from an earlier beginning. -/
def Occurrence.behind (past : List Change) (occurrence : Occurrence) : Occurrence :=
  ⟨past ++ occurrence.past, occurrence.report⟩

mutual

theorem Report.timeline_append (first past : List Change) : ∀ report : Report,
    report.timeline (first ++ past) = (report.timeline past).map (Occurrence.behind first)
  | ⟨step, result, output, own, shared⟩ => by
      rw [Report.timeline, Report.timeline, List.map_cons, timelineIn_append_past first past output]
      rfl

theorem timelineIn_append_past (first past : List Change) : ∀ output : List (Observation Report),
    timelineIn (first ++ past) output = (timelineIn past output).map (Occurrence.behind first)
  | [] => rfl
  | observation :: output => by
      rw [timelineIn, timelineIn, List.map_append, Observation.timeline_append first past observation,
        List.append_assoc, timelineIn_append_past first (past ++ observation.changes) output]

theorem Observation.timeline_append (first past : List Change) :
    ∀ observation : Observation Report,
      observation.timeline (first ++ past) =
        (observation.timeline past).map (Occurrence.behind first)
  | .called _ _ (some reports) _ => timelineOf_append first past reports
  | .called _ _ none _ => rfl
  | .analyzed _ _ => rfl
  | .logged _ => rfl
  | .analyzerLogged _ _ => rfl
  | .printed _ => rfl

theorem timelineOf_append (first past : List Change) : ∀ reports : List Report,
    timelineOf (first ++ past) reports = (timelineOf past reports).map (Occurrence.behind first)
  | [] => rfl
  | report :: reports => by
      rw [timelineOf, timelineOf, List.map_append, Report.timeline_append first past report,
        List.append_assoc, timelineOf_append first (past ++ report.changes) reports]

end

/-- A timeline that begins later has the same occurrences, behind what came before. -/
theorem timelineOf_eq_map (past : List Change) (reports : List Report) :
    timelineOf past reports = (timelineOf [] reports).map (Occurrence.behind past) := by
  rw [← timelineOf_append, List.append_nil]

/-! ## Processes with one library -/

/-- A library that has all entry points. -/
def libraryOf (code : EntryCode) : Library where
  exports := EntryPoint.all.map EntryPoint.symbol
  program := .coded code

/-- A process in which every path leads to the same library, and nothing is mapped. -/
def oneLibrary : Host where
  loader := { disk := { stored := fun _ => some (.library "library") } }

end Host
end FailOpen
