import FailOpen.Proofs.Bridge.Attempt
import FailOpen.Proofs.Timeline.Lawful

/-!
# Calls from inside a startup

While an engine starts, the bridge is still what it was before the attempt.  An engine that calls
back from inside its startup meets that bridge: the old engine answers, and a shutdown lets go of the
old module.  Only an attempt or a disabling is ruled out there, since both wait for the attempt that
is under way.

* `Report.RespectsLock` rules them out for the steps made inside an attempt.
* `Report.ShutBy` says that a nested shutdown has been completed.
* `Report.Meets` says that a step finds the bridge in a given state.
* `attempt_isolated` puts this together, and adds that nothing made inside the startup has a part in
  what becomes of the attempt.
-/

namespace FailOpen
namespace Host

/-- Whether an operation waits for an attempt that is under way. -/
def Operation.takesLock : Operation → Bool
  | .decideBlock _ | .ingest _ | .shutdown => false
  | _ => true

def Step.takesLock (name : BridgeName) (step : Step) : Bool :=
  step.target?.any fun (other, operation) => other = name && operation.takesLock

/-- No step made inside this one attempts to start an engine or disables the bridge. -/
def Report.RespectsLock (name : BridgeName) (report : Report) : Prop :=
  ∀ occurrence ∈ report.inside, occurrence.report.step.takesLock name = false

/-- One of the steps made inside this one is a shutdown of the bridge that was completed in `past`. -/
def Report.ShutBy (name : BridgeName) (report : Report) (past : List Change) : Prop :=
  ∃ shutdown ∈ report.inside,
    shutdown.report.step.target? = some (name, .shutdown) ∧ shutdown.span <+: past

instance (name : BridgeName) (report : Report) : Decidable (report.RespectsLock name) :=
  inferInstanceAs (Decidable (∀ occurrence ∈ report.inside, _))

instance (name : BridgeName) (report : Report) (past : List Change) :
    Decidable (report.ShutBy name past) :=
  inferInstanceAs (Decidable (∃ shutdown ∈ report.inside, _))

/-- The step finds the bridge in the given state: the engine of the state answers, a shutdown tells
whether the state holds a module, and the state is the one that is displayed. -/
structure Report.Meets (name : BridgeName) (state : Bridge.State) (report : Report) : Prop where
  demands : ∀ {operation demand}, report.step.target? = some (name, operation) →
    operation.demand? = some demand → Answered state.engine demand report
  shutsDown : report.step.target? = some (name, .shutdown) →
    report.result = report.step.shows state.hasModule
  displays : report.step = .display name → report.result = .text state.shown

variable {setup : Setup}

theorem Report.Faithful.meets {before : BridgeName → Bridge.State} {report : Report}
    (h : report.Faithful setup before) (name : BridgeName) : report.Meets name (before name) :=
  ⟨h.demands, fun htarget => (h.shutsDown htarget).2, h.displays⟩

/-- An operation that replaces a state without waiting for the lock is a shutdown. -/
theorem Operation.eq_shutdown {operation : Operation} (hlock : operation.takesLock = false)
    (hreplaces : operation.replaces = true) : operation = .shutdown := by
  cases operation with
  | shutdown => rfl
  | decideBlock exchange => cases hreplaces
  | ingest trace => cases hreplaces
  | _ => cases hlock

theorem Report.RespectsLock.operation {name : BridgeName} {report : Report}
    (h : report.RespectsLock name) {occurrence : Occurrence} (hmem : occurrence ∈ report.inside)
    {operation : Operation}
    (htarget : occurrence.report.step.target? = some (name, operation)) :
    operation.takesLock = false := by
  have hstep := h occurrence hmem
  rw [Step.takesLock, htarget] at hstep
  simpa using hstep

/-! ## What a bridge becomes inside a startup -/

section

variable {start : BridgeName → Bridge.State} {name : BridgeName} {report : Report}
  {past : List Change}
  (hlock : report.RespectsLock name)
  (hinside : ∀ occurrence ∈ report.inside,
    occurrence.report.Faithful setup (stateAfter start occurrence.past))
  (hpast : past <+: changesIn report.output)

include hlock hinside hpast

/-- If nothing takes the lock, the last change of the bridge is a shutdown. -/
theorem shutBy_of_latest? {change : Change} (hlatest : latest? past name = some change) :
    report.ShutBy name past ∧ change.state = .unloaded := by
  obtain ⟨-, rfl⟩ := mem_of_latest? hlatest
  obtain ⟨first, later, rfl, -⟩ := split_of_latest? hlatest
  have hbegins : first ++ [change] <+: first ++ [change] ++ later := List.prefix_append _ _
  obtain ⟨shutdown, hmem, hspan, hchange⟩ :=
    madeLastOf_changesIn [] (by simp) report.output (hbegins.trans hpast)
  rw [List.getLast?_concat] at hchange
  obtain ⟨operation, htarget, hreplaces, -, hstate⟩ := Report.exists_of_change? hchange
  obtain rfl := Operation.eq_shutdown (hlock.operation hmem htarget) hreplaces
  refine ⟨⟨shutdown, hmem, htarget, ?_⟩, ?_⟩
  · rw [hspan]
    exact hbegins
  · rw [← hstate]
    exact ((hinside shutdown hmem).shutsDown htarget).1

/-- Before the first shutdown the bridge is as it was. -/
theorem stateAfter_of_not_shutBy (hshut : ¬ report.ShutBy name past) :
    stateAfter start past name = start name := by
  unfold stateAfter
  cases hlatest : latest? past name with
  | none => rfl
  | some change => exact (hshut (shutBy_of_latest? hlock hinside hpast hlatest).1).elim

/-- After the first shutdown the bridge is unloaded. -/
theorem stateAfter_of_shutBy (hshut : report.ShutBy name past) :
    stateAfter start past name = .unloaded := by
  unfold stateAfter
  cases hlatest : latest? past name with
  | none =>
    -- a completed shutdown is a change of the bridge
    obtain ⟨shutdown, -, htarget, hspan⟩ := hshut
    have hmade : ⟨name, none, shutdown.report.state name⟩ ∈ shutdown.span := by
      rw [Occurrence.span, Report.changes_eq, Report.change?_of_target htarget]
      simp [Operation.replaces, Operation.isAttempt]
    exact (latest?_eq_none_iff.mp hlatest _ (hspan.subset hmade) rfl).elim
  | some change => exact (shutBy_of_latest? hlock hinside hpast hlatest).2

end

/-! ## Attempts -/

/-- An attempt keeps what it prepares apart from the bridge.  Let the engine that it starts make any
steps from inside its startup, except attempts and disablings of the same bridge.  Up to the first
shutdown among them, each of these steps finds the bridge in the state before the attempt, and from
then on it finds it unloaded; so no demand is answered by any engine but the one of that state, and
only the first shutdown can find a module.  In the end, the attempt yields and publishes the same as
it would have with any other steps in its startup, or with none, if the startup ends alike. -/
theorem attempt_isolated {step : Step} {name : BridgeName} {operation : Operation}
    (htarget : step.target? = some (name, operation)) (hattempt : operation.isAttempt)
    (depth : Nat) (host : Host)
    (hlock : ((report setup (calledBack setup depth) step).run host).1.RespectsLock name) :
    let attempt := ((report setup (calledBack setup depth) step).run host).1
    (∀ occurrence ∈ attempt.inside,
        (¬ attempt.ShutBy name occurrence.past →
          occurrence.report.Meets name (host.bridge name)) ∧
        (attempt.ShutBy name occurrence.past → occurrence.report.Meets name .unloaded)) ∧
      (∀ occurrence ∈ attempt.inside,
        (¬ attempt.ShutBy name occurrence.span →
          occurrence.report.state name = host.bridge name) ∧
        (attempt.ShutBy name occurrence.span → occurrence.report.state name = .unloaded)) ∧
      (∀ occurrence ∈ attempt.inside, ∀ call,
        occurrence.report.step.asks? = some (name, call) →
          ∀ contact ∈ occurrence.report.contacts,
            partyOf (host.bridge name).engine = some contact.party) ∧
      ∀ other : Setup, setup.Agrees other → ∀ depth' : Nat,
        let elsewhere := ((report other (calledBack other depth') step).run host).1
        elsewhere.contacts.map Contact.outcome = attempt.contacts.map Contact.outcome →
          elsewhere.result = attempt.result ∧ elsewhere.state name = attempt.state name := by
  intro attempt
  have hrun : Tracks setup (calledBack setup depth) := calledBack_tracks depth
  obtain ⟨-, -, -, hinside⟩ := report_tracks hrun step host
  have hspan : ∀ occurrence ∈ attempt.inside,
      occurrence.span <+: changesIn attempt.output := fun occurrence hmem =>
    span_prefix_of_mem_timelineIn [] attempt.output hmem
  have hpast : ∀ occurrence ∈ attempt.inside,
      occurrence.past <+: changesIn attempt.output := fun occurrence hmem =>
    (List.prefix_append _ _).trans (hspan occurrence hmem)
  refine ⟨fun occurrence hmem => ?_, fun occurrence hmem => ?_, fun occurrence hmem call hasks => ?_,
    fun other hagree depth' => ?_⟩
  · have hmeets := (hinside occurrence hmem).meets name
    refine ⟨fun hshut => ?_, fun hshut => ?_⟩
    · rwa [stateAfter_of_not_shutBy hlock hinside (hpast occurrence hmem) hshut] at hmeets
    · rwa [stateAfter_of_shutBy hlock hinside (hpast occurrence hmem) hshut] at hmeets
  · rw [(hinside occurrence hmem).states name, ← stateAfter_append]
    exact ⟨stateAfter_of_not_shutBy hlock hinside (hspan occurrence hmem),
      stateAfter_of_shutBy hlock hinside (hspan occurrence hmem)⟩
  · intro contact hcontact
    obtain ⟨inner, demand, hinner, hdemand, rfl⟩ := Step.demand_of_asks? hasks
    have hparty := ((hinside occurrence hmem).demands hinner hdemand).partyOf_eq hcontact
    by_cases hshut : attempt.ShutBy name occurrence.past
    · rw [stateAfter_of_shutBy hlock hinside (hpast occurrence hmem) hshut] at hparty
      cases hparty
    · rwa [stateAfter_of_not_shutBy hlock hinside (hpast occurrence hmem) hshut] at hparty
  · intro elsewhere houtcomes
    -- both attempts have prepared the same, and how their startups end decides the rest
    obtain ⟨b, hsettles, hresult⟩ := attempt_settles hrun htarget hattempt host
    obtain ⟨b', hsettles', hresult'⟩ :=
      attempt_settles (@calledBack_tracks other depth') htarget hattempt host
    rw [hagree.prepared_eq, houtcomes] at hsettles'
    obtain ⟨rfl, hstate⟩ := hsettles'.unique hsettles
    exact ⟨hresult'.trans hresult.symm, hstate⟩

/-- A library that blocks everything, and an engine that asks and shuts the bridge down twice while
it starts. -/
def interrupting : Setup where
  supplied name := .custom name
  custom _ :=
    { startup := fun _ _ =>
        .callBack (.ofSteps [.bridge .own (.decideBlock default), .bridge .own .shutdown,
          .bridge .own (.decideBlock default), .bridge .own .shutdown] (.returned true))
      block := fun _ _ => .answer (.returned false)
      ingest := fun _ _ => .answer (.returned ()) }
  library _ := libraryOf
    { startup := fun _ _ => .answer 1
      block := fun _ _ => .answer 1
      ingest := fun _ _ => .answer () }

/-- The process in which the library has been started. -/
def interruptedHost : Host :=
  ((runSteps interrupting 1 [.bridge .own (.startFrom "/library" default)]).run oneLibrary).2

/-- The report of starting the engine while the library is in place. -/
def interruptedReport : Report :=
  ((report interrupting (calledBack interrupting 2)
    (.bridge .own (.startSupplied "engine" default))).run interruptedHost).1

/-- The library answers the question that comes before the first shutdown, and only the first
shutdown finds a module. -/
theorem interrupted_meets_library :
    (∃ occurrence ∈ interruptedReport.inside,
        occurrence.report.step.asks? = some (.own, .block default) ∧
          ∃ contact ∈ occurrence.report.contacts, contact.party = .code (.image "library")) ∧
      (∃ occurrence ∈ interruptedReport.inside, occurrence.report.result = .flag true ∧
        occurrence.report.step = .bridge .own .shutdown) ∧
      ∃ occurrence ∈ interruptedReport.inside, occurrence.report.result = .flag false ∧
        occurrence.report.step = .bridge .own .shutdown := by
  have hasks : ∃ occurrence ∈ interruptedReport.inside,
      occurrence.report.step.asks? = some (.own, .block default) ∧
        occurrence.report.contacts.length = 1 := by decide +kernel
  have hfirst : ∃ occurrence ∈ interruptedReport.inside,
      occurrence.report.step = .bridge .own .shutdown ∧
        ¬ interruptedReport.ShutBy .own occurrence.past := by decide +kernel
  have hsecond : ∃ occurrence ∈ interruptedReport.inside,
      occurrence.report.step = .bridge .own .shutdown ∧
        interruptedReport.ShutBy .own occurrence.past := by decide +kernel
  have hlock : interruptedReport.RespectsLock .own := by decide +kernel
  have hparty : partyOf (interruptedHost.bridge .own).engine = some (.code (.image "library")) := by
    decide +kernel
  have hmodule : (interruptedHost.bridge .own).hasModule = true := by decide +kernel
  obtain ⟨hmeets, -, hreaches, -⟩ := attempt_isolated rfl rfl 2 interruptedHost hlock
  refine ⟨?_, ?_, ?_⟩
  · obtain ⟨occurrence, hmem, hcall, hlength⟩ := hasks
    obtain ⟨contact, hcontacts⟩ := List.length_eq_one_iff.mp hlength
    have hcontact : contact ∈ occurrence.report.contacts := by rw [hcontacts]; exact .head _
    refine ⟨occurrence, hmem, hcall, contact, hcontact, ?_⟩
    exact Option.some.inj ((hreaches occurrence hmem _ hcall contact hcontact).symm.trans hparty)
  · obtain ⟨occurrence, hmem, hstep, hshut⟩ := hfirst
    refine ⟨occurrence, hmem, ?_, hstep⟩
    have hresult := ((hmeets occurrence hmem).1 hshut).shutsDown (by rw [hstep]; rfl)
    rw [hresult, hstep, hmodule]
    rfl
  · obtain ⟨occurrence, hmem, hstep, hshut⟩ := hsecond
    refine ⟨occurrence, hmem, ?_, hstep⟩
    have hresult := ((hmeets occurrence hmem).2 hshut).shutsDown (by rw [hstep]; rfl)
    rw [hresult, hstep]
    rfl

end Host
end FailOpen
