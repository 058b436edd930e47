import FailOpen.Proofs.Course.Step

/-!
# The order of events in reports

Reports are nested as the steps are: a call that an engine answers after making steps of its own
holds the reports of those steps.  This module reads the order of events off such a tree, from what
was observed alone.

* A `Contact` is a call that reached code, and `Report.contacts` are those that a step made itself.
* A `Change` is a replacement of the state of a bridge.  It stands where the state is replaced: an
  attempt changes its bridge after everything that happened inside the startup of its engine.
* `changesOf` lists the changes made in some reports, and `timelineOf` all steps at all depths, each
  as an `Occurrence` with the changes that were completed before the step began.
* `latest?` is the last change of a bridge, and `stateAfter` the state in which it leaves the bridge.
-/

namespace FailOpen
namespace Host

/-! ## Contacts -/

/-- A call that has reached code: who was called, with what, the reports of the steps made inside
the call, and how it was answered. -/
structure Contact where
  party : Party
  call : Call
  nested : Option (List Report)
  answer : Answer

/-- The reports of the steps made inside a call. -/
def Contact.inner (contact : Contact) : List Report :=
  contact.nested.getD []

/-- The call in an observation. -/
def Observation.contact? : Observation Report → Option Contact
  | .called party call nested answer => some ⟨party, call, nested, answer⟩
  | _ => none

/-- The calls that a step made itself, in order. -/
def Report.contacts (report : Report) : List Contact :=
  report.output.filterMap Observation.contact?

/-- Whether the contact is a startup that was accepted. -/
def Contact.isAcceptance (contact : Contact) : Bool :=
  contact.call.entryPoint = .startup && contact.answer.accepts

/-- Whose startup was accepted in a step. -/
def Report.accepted? (report : Report) : Option Party :=
  (report.contacts.find? Contact.isAcceptance).map Contact.party

/-! ## Changes -/

/-- A replacement of the state of a bridge. -/
structure Change where
  bridge : BridgeName
  /-- Whose startup was accepted, if an attempt has made the change and one was. -/
  accepted : Option Party
  /-- The new state. -/
  state : Bridge.State
  deriving DecidableEq

/-- Whether an operation replaces the state of its bridge. -/
def Operation.replaces : Operation → Bool
  | .decideBlock _ | .ingest _ => false
  | _ => true

/-- The change that a step made when it ended. -/
def Report.change? (report : Report) : Option Change :=
  match report.step.target? with
  | some (name, operation) =>
      if operation.replaces then
        some ⟨name, if operation.isAttempt then report.accepted? else none, report.state name⟩
      else none
  | none => none

mutual

/-- The changes made in a step, in order. -/
def Report.changes : Report → List Change
  | ⟨step, result, output, own, shared⟩ =>
      changesIn output ++ (Report.change? ⟨step, result, output, own, shared⟩).toList

/-- The changes made inside the calls of an output. -/
def changesIn : List (Observation Report) → List Change
  | [] => []
  | observation :: output => observation.changes ++ changesIn output

/-- The changes made inside a call. -/
def Observation.changes : Observation Report → List Change
  | .called _ _ (some reports) _ => changesOf reports
  | _ => []

/-- The changes made in some steps, in order. -/
def changesOf : List Report → List Change
  | [] => []
  | report :: reports => report.changes ++ changesOf reports

end

/-! ## Occurrences -/

/-- A step in a run, with the changes that were completed before it began. -/
structure Occurrence where
  past : List Change
  report : Report

mutual

/-- A step and all steps made inside it. -/
def Report.timeline (past : List Change) : Report → List Occurrence
  | ⟨step, result, output, own, shared⟩ =>
      ⟨past, ⟨step, result, output, own, shared⟩⟩ :: timelineIn past output

/-- The steps made inside the calls of an output. -/
def timelineIn (past : List Change) : List (Observation Report) → List Occurrence
  | [] => []
  | observation :: output =>
      observation.timeline past ++ timelineIn (past ++ observation.changes) output

/-- The steps made inside a call. -/
def Observation.timeline (past : List Change) : Observation Report → List Occurrence
  | .called _ _ (some reports) _ => timelineOf past reports
  | _ => []

/-- All steps of a run, those inside calls included, in the order in which they begin. -/
def timelineOf (past : List Change) : List Report → List Occurrence
  | [] => []
  | report :: reports => report.timeline past ++ timelineOf (past ++ report.changes) reports

end

theorem Report.changes_eq (report : Report) :
    report.changes = changesIn report.output ++ report.change?.toList := by
  cases report
  rfl

theorem Report.timeline_eq (past : List Change) (report : Report) :
    report.timeline past = ⟨past, report⟩ :: timelineIn past report.output := by
  cases report
  rfl

theorem Report.change?_of_target {report : Report} {name : BridgeName} {operation : Operation}
    (htarget : report.step.target? = some (name, operation)) :
    report.change? =
      if operation.replaces then
        some ⟨name, if operation.isAttempt then report.accepted? else none, report.state name⟩
      else none := by
  rw [change?, htarget]

/-- The step that made a change is an operation of the bridge that changed. -/
theorem Report.exists_of_change? {report : Report} {change : Change}
    (h : report.change? = some change) :
    ∃ operation, report.step.target? = some (change.bridge, operation) ∧ operation.replaces ∧
      change.accepted = (if operation.isAttempt then report.accepted? else none) ∧
      report.state change.bridge = change.state := by
  cases htarget : report.step.target? with
  | none =>
    rw [Report.change?, htarget] at h
    cases h
  | some target =>
    obtain ⟨name, operation⟩ := target
    rw [Report.change?_of_target htarget] at h
    split at h
    · rename_i hreplaces
      obtain rfl := Option.some.inj h
      exact ⟨operation, rfl, hreplaces, rfl, rfl⟩
    · cases h

/-- The changes that were completed when a step ended. -/
def Occurrence.span (occurrence : Occurrence) : List Change :=
  occurrence.past ++ occurrence.report.changes

/-- The steps made inside a step, with the changes since it began. -/
def Report.inside (report : Report) : List Occurrence :=
  timelineIn [] report.output

/-! ## States -/

/-- The last change of a bridge. -/
def latest? (past : List Change) (name : BridgeName) : Option Change :=
  (past.filter fun change => change.bridge = name).getLast?

theorem latest?_eq_none_iff {past : List Change} {name : BridgeName} :
    latest? past name = none ↔ ∀ change ∈ past, change.bridge ≠ name := by
  simp [latest?]

/-- The state of a bridge after some changes, given the states before them. -/
def stateAfter (start : BridgeName → Bridge.State) (past : List Change) (name : BridgeName) :
    Bridge.State :=
  (latest? past name).elim (start name) Change.state

theorem latest?_append (first second : List Change) (name : BridgeName) :
    latest? (first ++ second) name = (latest? second name).or (latest? first name) := by
  simp [latest?, List.filter_append, List.getLast?_append]

theorem stateAfter_append (start : BridgeName → Bridge.State) (first second : List Change) :
    stateAfter start (first ++ second) = stateAfter (stateAfter start first) second := by
  funext name
  unfold stateAfter
  rw [latest?_append]
  cases latest? second name <;> rfl

theorem stateAfter_singleton (start : BridgeName → Bridge.State) (change : Change)
    (name : BridgeName) :
    stateAfter start [change] name = if change.bridge = name then change.state else start name := by
  unfold stateAfter latest?
  by_cases h : change.bridge = name <;> simp [h]

/-! ## Quiet observations -/

/-- Whether nobody is called in an observation. -/
def Observation.isQuiet (observation : Observation Report) : Bool :=
  observation.contact?.isNone

/-- Whether nobody is called in an output. -/
def Quiet (output : List (Observation Report)) : Prop :=
  ∀ observation ∈ output, observation.isQuiet

theorem Quiet.append {first second : List (Observation Report)} (hfirst : Quiet first)
    (hsecond : Quiet second) : Quiet (first ++ second) := by
  intro observation hmem
  rcases List.mem_append.mp hmem with h | h
  · exact hfirst observation h
  · exact hsecond observation h

theorem Observation.changes_of_isQuiet {observation : Observation Report}
    (h : observation.isQuiet) : observation.changes = [] := by
  cases observation <;> simp_all [Observation.isQuiet, Observation.contact?, Observation.changes]

theorem Observation.timeline_of_isQuiet {observation : Observation Report} (past : List Change)
    (h : observation.isQuiet) : observation.timeline past = [] := by
  cases observation <;> simp_all [Observation.isQuiet, Observation.contact?, Observation.timeline]

theorem changesIn_append (first second : List (Observation Report)) :
    changesIn (first ++ second) = changesIn first ++ changesIn second := by
  induction first with
  | nil => rfl
  | cons observation first ih => simp [changesIn, ih, List.append_assoc]

theorem timelineIn_append (past : List Change) (first second : List (Observation Report)) :
    timelineIn past (first ++ second) =
      timelineIn past first ++ timelineIn (past ++ changesIn first) second := by
  induction first generalizing past with
  | nil => simp [timelineIn, changesIn]
  | cons observation first ih => simp [timelineIn, changesIn, ih, List.append_assoc]

theorem changesIn_of_quiet {output : List (Observation Report)} (h : Quiet output) :
    changesIn output = [] := by
  induction output with
  | nil => rfl
  | cons observation output ih =>
    rw [changesIn, Observation.changes_of_isQuiet (h observation List.mem_cons_self),
      ih fun later hlater => h later (List.mem_cons_of_mem _ hlater), List.append_nil]

theorem timelineIn_of_quiet {output : List (Observation Report)} (past : List Change)
    (h : Quiet output) : timelineIn past output = [] := by
  induction output generalizing past with
  | nil => rfl
  | cons observation output ih =>
    rw [timelineIn, Observation.timeline_of_isQuiet past (h observation List.mem_cons_self),
      ih _ fun later hlater => h later (List.mem_cons_of_mem _ hlater), List.append_nil]

theorem contacts_of_quiet {output : List (Observation Report)} (h : Quiet output) :
    output.filterMap Observation.contact? = [] := by
  rw [List.filterMap_eq_nil_iff]
  intro observation hmem
  simpa [Observation.isQuiet] using h observation hmem

end Host
end FailOpen
