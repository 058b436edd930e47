import FailOpen.Proofs.Timeline.Lawful

/-!
# Status, engine and module fit together

The state of a bridge has three parts that are replaced together: a status, an engine and a module.
`Coherent` says which combinations there are, and `Sound` adds where an initialized state comes from:
from an attempt of the run in which the startup of that very engine was accepted, and since which
the bridge has not changed.

* `Published.coherent` and `Change.Lawful.coherent` treat the ways in which an operation ends.
* `sound_of_prefix` treats every moment of a run, steps made inside calls included.
* `sound_of_run` states it for the states that are shown, after every step at every depth, and for
  the states in which the run leaves the bridges.
-/

namespace FailOpen
namespace Host

/-! ## The combinations -/

/-- The status, the engine and the module of a state fit together. -/
structure Coherent (setup : Setup) (state : Bridge.State) : Prop where
  initialized_iff : state.status = .initialized ↔ state.engine ≠ .inert
  unheld : state.status = .unloaded ∨ state.status = .disabled .invalidArguments ∨
    state.status = .disabled .loadFailed → state.module = none
  lacking : ∀ {symbol module}, state.status = .disabled (.missingEntryPoint symbol) →
    state.module = some module → ∃ point : EntryPoint, point.symbol = symbol ∧
      ¬ Exports setup module point ∧
        ∀ earlier ∈ EntryPointsBefore point, Exports setup module earlier
  refused : ∀ {module}, state.status = .disabled .startupRejected ∨
    state.status = .disabled .startupPanicked → state.module = some module →
      ∀ point, Exports setup module point
  bound : ∀ {module}, state.status = .initialized → state.module = some module →
    state.engine = engineIn module ∧ ∀ point, Exports setup module point
  unbound : state.status = .initialized → state.module = none → state.engine.module? = none

/-- The step is an attempt in which the engine of a state was reached and accepted its startup, which
left the bridge in that state; and the bridge has not changed since, up to the end of `span`. -/
structure Occurrence.Established (attempt : Occurrence) (name : BridgeName) (span : List Change)
    (state : Bridge.State) : Prop where
  isAttempt : ∃ operation, attempt.report.step.target? = some (name, operation) ∧
    operation.isAttempt
  accepts : ∃ contact ∈ attempt.report.contacts, contact.call.entryPoint = .startup ∧
    contact.answer.accepts ∧ partyOf state.engine = some contact.party
  state_eq : attempt.report.state name = state
  unchanged : ∃ later, span = attempt.span ++ later ∧ ∀ change ∈ later, change.bridge ≠ name

/-- A state that a bridge is in after the changes in `span`, in a run with the given reports. -/
structure Sound (setup : Setup) (reports : List Report) (name : BridgeName) (span : List Change)
    (state : Bridge.State) : Prop where
  coherent : Coherent setup state
  established : state.status = .initialized →
    ∃ attempt ∈ timelineOf [] reports, attempt.Established name span state

variable {setup : Setup}

/-- A disabled bridge without a module is coherent whatever the reason. -/
theorem coherent_disabled_none (reason : Bridge.Reason) :
    Coherent setup (.disabled reason none) := by
  constructor <;> simp [Bridge.State.disabled]

theorem coherent_unloaded : Coherent setup .unloaded := by
  constructor <;> simp [Bridge.State.unloaded]

/-- A disabled bridge that holds a module is coherent if the module is the one that the reason is
about. -/
theorem coherent_disabled_some {reason : Bridge.Reason} {module : Loader.Module}
    (hreason : reason ≠ .invalidArguments ∧ reason ≠ .loadFailed)
    (hlacking : ∀ {symbol}, reason = .missingEntryPoint symbol →
      ∃ point : EntryPoint, point.symbol = symbol ∧ ¬ Exports setup module point ∧
        ∀ earlier ∈ EntryPointsBefore point, Exports setup module earlier)
    (hrefused : reason = .startupRejected ∨ reason = .startupPanicked →
      ∀ point, Exports setup module point) : Coherent setup (.disabled reason (some module)) where
  initialized_iff := by simp [Bridge.State.disabled]
  unheld := by simp [Bridge.State.disabled, hreason]
  lacking hstatus hmodule := by
    obtain rfl := Option.some.inj hmodule
    exact hlacking (Bridge.Status.disabled.inj hstatus)
  refused hstatus hmodule := by
    obtain rfl := Option.some.inj hmodule
    exact hrefused (hstatus.imp Bridge.Status.disabled.inj Bridge.Status.disabled.inj)
  bound := nofun
  unbound := nofun

/-- What an attempt publishes is coherent. -/
theorem Published.coherent {accepted : Option Party} {state : Bridge.State}
    (h : Published setup accepted state) : Coherent setup state := by
  cases h with
  | loadFailed => exact coherent_disabled_none _
  | lacks hlacks hbefore =>
    refine coherent_disabled_some (by simp) (fun hsymbol => ?_) (by simp)
    exact ⟨_, Bridge.Reason.missingEntryPoint.inj hsymbol, hlacks, hbefore⟩
  | @rejected module hcomplete =>
    cases module with
    | none => exact coherent_disabled_none _
    | some module =>
      exact coherent_disabled_some (by simp) nofun fun _ => hcomplete module rfl
  | @panicked module hcomplete =>
    cases module with
    | none => exact coherent_disabled_none _
    | some module =>
      exact coherent_disabled_some (by simp) nofun fun _ => hcomplete module rfl
  | loaded hcomplete =>
    constructor <;> simp [engineIn, hcomplete]
  | @supplied engine party hparty hmodule =>
    have hengine : engine ≠ .inert := by
      rintro rfl
      cases hparty
    constructor <;> simp [hengine, hmodule]

theorem Change.Lawful.coherent {change : Change} (h : change.Lawful setup) :
    Coherent setup change.state := by
  cases h with
  | attempt hpublished => exact hpublished.coherent
  | disable => exact coherent_disabled_none _
  | shutdown => exact coherent_unloaded

/-! ## Where an initialized state comes from -/

theorem Report.exists_of_accepted? {report : Report} {party : Party}
    (h : report.accepted? = some party) :
    ∃ contact ∈ report.contacts, contact.call.entryPoint = .startup ∧ contact.answer.accepts ∧
      contact.party = party := by
  obtain ⟨contact, hfind, rfl⟩ := Option.map_eq_some_iff.mp h
  have haccepts := List.find?_some hfind
  simp only [Contact.isAcceptance, Bool.and_eq_true, decide_eq_true_eq] at haccepts
  exact ⟨contact, List.mem_of_find?_eq_some hfind, haccepts.1, haccepts.2, rfl⟩

/-- A change to an initialized state was made by the attempt that established the state. -/
theorem Change.Lawful.established {change : Change} (h : change.Lawful setup)
    (hinitialized : change.state.status = .initialized) {attempt : Occurrence}
    (hchange : attempt.report.change? = some change) {later : List Change}
    (hlater : ∀ other ∈ later, other.bridge ≠ change.bridge) :
    attempt.Established change.bridge (attempt.span ++ later) change.state := by
  obtain ⟨operation, htarget, -, haccepted, hstate⟩ := Report.exists_of_change? hchange
  obtain ⟨party, hparty⟩ : ∃ party, partyOf change.state.engine = some party := by
    have hengine := h.coherent.initialized_iff.mp hinitialized
    cases hcase : change.state.engine with
    | inert => exact (hengine hcase).elim
    | custom name => exact ⟨_, rfl⟩
    | native native => exact ⟨_, rfl⟩
  rw [h.accepted_eq, hparty] at haccepted
  split at haccepted
  · -- the change says whose startup was accepted, so it was made by an attempt
    rename_i hattempt
    obtain ⟨contact, hmem, hpoint, haccepts, rfl⟩ := Report.exists_of_accepted? haccepted.symm
    exact ⟨⟨operation, htarget, hattempt⟩, ⟨contact, hmem, hpoint, haccepts, hparty⟩, hstate,
      later, rfl, hlater⟩
  · cases haccepted

/-! ## Every state of a run -/

/-- After any of the first changes of a truthful run, the state of every bridge is sound. -/
theorem sound_of_prefix {before : BridgeName → Bridge.State} {reports : List Report}
    (htruthful : Truthful setup before reports) {name : BridgeName}
    (hstart : before name = .unloaded) {span : List Change} (hspan : span <+: changesOf reports) :
    Sound setup reports name span (stateAfter before span name) := by
  unfold stateAfter
  cases hlatest : latest? span name with
  | none =>
    rw [Option.elim_none, hstart]
    exact ⟨coherent_unloaded, nofun⟩
  | some change =>
    obtain ⟨hmem, rfl⟩ := mem_of_latest? hlatest
    have hlawful := lawful_of_mem_changesOf htruthful (hspan.subset hmem)
    refine ⟨hlawful.coherent, fun hinitialized => ?_⟩
    -- the step that made the last change is the attempt, and what came later left the bridge alone
    obtain ⟨first, later, rfl, hlater⟩ := split_of_latest? hlatest
    obtain ⟨attempt, hattempt, hpast, hchange⟩ :=
      madeLastOf_changesOf [] (by simp) reports ((List.prefix_append _ later).trans hspan)
    rw [List.getLast?_concat] at hchange
    refine ⟨attempt, hattempt, ?_⟩
    rw [← List.nil_append (first ++ [change]), ← hpast]
    exact hlawful.established hinitialized hchange hlater

/-- In every run that begins with unloaded bridges, with any engines, any libraries and any steps
inside calls, both bridges are in a sound state after every step at every depth, and when the run
is over. -/
theorem sound_of_run (setup : Setup) (depth : Nat) (steps : List Step) (host : Host)
    (hunloaded : ∀ name, host.bridge name = .unloaded) :
    let ran := (runSteps setup depth steps).run host
    (∀ occurrence ∈ timelineOf [] ran.1, ∀ name,
        Sound setup ran.1 name occurrence.span (occurrence.report.state name)) ∧
      ∀ name, Sound setup ran.1 name (changesOf ran.1) (ran.2.bridge name) := by
  obtain ⟨-, hbridge, htruthful⟩ := @runSteps_tracks setup depth steps host
  refine ⟨fun occurrence hoccurrence name => ?_, fun name => ?_⟩
  · rw [(htruthful occurrence hoccurrence).states name, ← stateAfter_append]
    refine sound_of_prefix htruthful (hunloaded name) ?_
    exact span_prefix_of_mem_timelineOf [] _ hoccurrence
  · rw [hbridge]
    exact sound_of_prefix htruthful (hunloaded name) List.prefix_rfl

/-- A library whose startup shuts the bridge down before it accepts. -/
def selfShutting : Setup where
  library _ := libraryOf
    { startup := fun _ _ => .callBack (.ofSteps [.bridge .own .shutdown] 1)
      block := fun _ _ => .answer 0
      ingest := fun _ _ => .answer () }

/-- A run that starts the engine in the library. -/
def selfShuttingRun : List Report × Host :=
  (runSteps selfShutting 2 [.bridge .own (.startFrom "/library" default)]).run oneLibrary

/-- The nested shutdown does not keep the bridge from being initialized: the engine and the module
are those of the attempt that is still under way. -/
theorem selfShutting_established :
    (selfShuttingRun.2.bridge .own).module = some ⟨0, "/library", "library"⟩ ∧
      (selfShuttingRun.2.bridge .own).engine = engineIn ⟨0, "/library", "library"⟩ ∧
      ∃ attempt ∈ timelineOf [] selfShuttingRun.1,
        attempt.Established .own (changesOf selfShuttingRun.1) (selfShuttingRun.2.bridge .own) := by
  have hmodule : (selfShuttingRun.2.bridge .own).module = some ⟨0, "/library", "library"⟩ := by
    decide +kernel
  have hstatus : (selfShuttingRun.2.bridge .own).status = .initialized := by
    decide +kernel
  obtain ⟨-, hsound⟩ := sound_of_run selfShutting 2 [.bridge .own (.startFrom "/library" default)]
    oneLibrary (fun name => by cases name <;> rfl)
  exact ⟨hmodule, ((hsound .own).coherent.bound hstatus hmodule).1, (hsound .own).established hstatus⟩

end Host
end FailOpen
