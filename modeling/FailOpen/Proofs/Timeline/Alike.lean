import FailOpen.Proofs.Course.Conduct
import FailOpen.Proofs.Timeline.Requests
import Mathlib.Data.List.Forall2

/-!
# Runs that look alike

Two processes make the same steps, and a bridge begins in a different state in each of them.  This
module says what it means that their reports look alike all the same.

* The `outline` of a state is what can be told of it, but for which load its module is.
* `Drift` relates the states of the bridge in the two processes: they are what they were until the
  bridge changes, and have the same outline from then on.
* `Alike` relates the occurrences of a step in the two runs, and `Coupled` the runs.
* `Coupled.append` puts runs together that look alike, and `Coupled.goesOn` says that a discreet
  routine makes the same next step in both of them.
-/

namespace FailOpen
namespace Host

open Analyzer (Request)

/-! ## States -/

/-- What can be told of a state, but for which load its module is: its status, the code that its
engine leads to, and the path and the file of its module. -/
structure Outline where
  status : Bridge.Status
  party : Option Party
  origin : Option (String × String)

def outline (state : Bridge.State) : Outline where
  status := state.status
  party := partyOf state.engine
  origin := state.module.map fun module => (module.path, module.file)

theorem hasModule_of_outline {state other : Bridge.State} (h : outline state = outline other) :
    state.hasModule = other.hasModule := by
  have horigin := congrArg (fun outline => outline.origin.isSome) h
  simpa [outline, Bridge.State.hasModule] using horigin

/-- The outline is all that is shown of a state. -/
theorem shown_of_outline {state other : Bridge.State} (h : outline state = outline other) :
    state.shown = other.shown := by
  have hname : ∀ engine : Engine, engine.name =
      match partyOf engine with
      | none => Engine.inert.name
      | some (.custom name) => name
      | some (.code code) => (Engine.native { code }).name := by
    intro engine
    cases engine <;> rfl
  have hmodule : ∀ module : Option Loader.Module, shownModule module =
      Text.Shape.optional ((module.map fun module => (module.path, module.file)).map fun origin =>
        (⟨0, origin.1, origin.2⟩ : Loader.Module).shown) := by
    intro module
    cases module <;> rfl
  obtain ⟨hstatus, hparty, horigin⟩ := Outline.mk.inj h
  unfold Bridge.State.shown
  rw [hname state.engine, hname other.engine, hmodule state.module, hmodule other.module, hstatus,
    hparty, horigin]

theorem pinned_of_outline {state other : Bridge.State} (h : outline state = outline other)
    (file : String) : Pinned (.image file) state ↔ Pinned (.image file) other := by
  have hfile : ∀ state : Bridge.State, Pinned (.image file) state ↔
      ∃ origin ∈ (outline state).origin, origin.2 = file := by
    intro state
    show (∃ module ∈ state.module, module.file = file) ↔ _
    cases state with
    | mk status engine module => cases module <;> simp [outline]
  rw [hfile state, hfile other, h]

/-- The bridge is not among those that have changed. -/
def Untouched (name : BridgeName) (changes : List Change) : Prop :=
  ∀ change ∈ changes, change.bridge ≠ name

theorem untouched_nil (name : BridgeName) : Untouched name [] :=
  List.forall_mem_nil _

theorem untouched_append {name : BridgeName} {changes later : List Change} :
    Untouched name (changes ++ later) ↔ Untouched name changes ∧ Untouched name later :=
  List.forall_mem_append

theorem untouched_singleton {name : BridgeName} {change : Change} :
    Untouched name [change] ↔ change.bridge ≠ name :=
  List.forall_mem_singleton

/-- The bridge was in the states `first` and `second` and is in the states `first'` and `second'`
after the changes.  It has either not changed, or it looks the same in both processes. -/
structure Drift (name : BridgeName) (first second : Bridge.State) (changes others : List Change)
    (first' second' : Bridge.State) : Prop where
  together : Untouched name changes ↔ Untouched name others
  before : Untouched name changes → first' = first ∧ second' = second
  since : ¬ Untouched name changes → outline first' = outline second'

variable {name : BridgeName} {first second first' second' first'' second'' : Bridge.State}
  {changes others later later' : List Change}

/-- Changes of other bridges. -/
theorem Drift.of_untouched (hchanges : Untouched name changes) (hothers : Untouched name others) :
    Drift name first second changes others first second where
  together := iff_of_true hchanges hothers
  before _ := ⟨rfl, rfl⟩
  since h := (h hchanges).elim

theorem Drift.nil (name : BridgeName) (first second : Bridge.State) :
    Drift name first second [] [] first second :=
  .of_untouched (untouched_nil name) (untouched_nil name)

theorem Drift.append (h : Drift name first second changes others first' second')
    (h' : Drift name first' second' later later' first'' second'') :
    Drift name first second (changes ++ later) (others ++ later') first'' second'' where
  together := by
    rw [untouched_append, untouched_append, h.together, h'.together]
  before huntouched := by
    obtain ⟨hchanges, hlater⟩ := untouched_append.mp huntouched
    obtain ⟨hfirst, hsecond⟩ := h.before hchanges
    obtain ⟨hfirst', hsecond'⟩ := h'.before hlater
    exact ⟨hfirst'.trans hfirst, hsecond'.trans hsecond⟩
  since htouched := by
    by_cases hlater : Untouched name later
    · obtain ⟨hfirst', hsecond'⟩ := h'.before hlater
      rw [hfirst', hsecond']
      exact h.since fun hchanges => htouched (untouched_append.mpr ⟨hchanges, hlater⟩)
    · exact h'.since hlater

/-- A change after which the bridge looks the same. -/
theorem Drift.of_outline (h : outline first' = outline second')
    (hchanges : ¬ Untouched name changes) (hothers : ¬ Untouched name others) :
    Drift name first second changes others first' second' where
  together := iff_of_false hchanges hothers
  before huntouched := (hchanges huntouched).elim
  since _ := h

/-- A bridge that looks the same in both processes goes on doing so. -/
theorem Drift.outline_eq (h : Drift name first second changes others first' second')
    (heq : outline first = outline second) : outline first' = outline second' := by
  by_cases hchanges : Untouched name changes
  · obtain ⟨rfl, rfl⟩ := h.before hchanges
    exact heq
  · exact h.since hchanges

/-! ## Occurrences -/

/-- What can be told of a contact: who was called, with what, and how the call was answered. -/
def Contact.seen (contact : Contact) : Party × Call × Answer :=
  (contact.party, contact.call, contact.answer)

/-- The step makes the same calls with the same answers in both runs, asks the same of the analyzers,
and has the same result; and the states after it have drifted.  Only a step that tells the states of
the bridge apart can have different results, and only if the bridge has not changed before it.  A
shutdown shows then whether there was a module in the beginning. -/
structure Alike (name : BridgeName) (first second : Bridge.State) (occurrence other : Occurrence) :
    Prop where
  step : occurrence.report.step = other.report.step
  contacts : occurrence.report.contacts.map Contact.seen = other.report.contacts.map Contact.seen
  requests : ∀ code, occurrence.report.requests code = other.report.requests code
  pasts : Untouched name occurrence.past ↔ Untouched name other.past
  states : Drift name first second occurrence.span other.span (occurrence.report.state name)
    (other.report.state name)
  result : occurrence.report.result = other.report.result ∨
    (Untouched name occurrence.past ∧ outline first ≠ outline second ∧
      occurrence.report.step.Tells name occurrence.report.result other.report.result)
  shutdown : Untouched name occurrence.past →
    occurrence.report.step.target? = some (name, .shutdown) →
      occurrence.report.result = occurrence.report.step.shows first.hasModule ∧
        other.report.result = occurrence.report.step.shows second.hasModule

/-- Occurrences that look alike after some changes look alike from before them. -/
theorem Alike.behind {occurrence other : Occurrence}
    (hdrift : Drift name first second changes others first' second')
    (h : Alike name first' second' occurrence other) :
    Alike name first second (occurrence.behind changes) (other.behind others) where
  step := h.step
  contacts := h.contacts
  requests := h.requests
  pasts := by
    show Untouched name (changes ++ occurrence.past) ↔ Untouched name (others ++ other.past)
    rw [untouched_append, untouched_append, hdrift.together, h.pasts]
  states := by
    have hspan : ∀ (past : List Change) (occurrence : Occurrence),
        (occurrence.behind past).span = past ++ occurrence.span := fun past occurrence =>
      List.append_assoc past occurrence.past occurrence.report.changes
    rw [hspan, hspan]
    exact hdrift.append h.states
  result := by
    rcases h.result with hsame | ⟨hpast, hne, htells⟩
    · exact .inl hsame
    · -- the states still differ, so the bridge has not changed before either
      have hchanges : Untouched name changes := by
        by_contra htouched
        exact hne (hdrift.since htouched)
      obtain ⟨rfl, rfl⟩ := hdrift.before hchanges
      exact .inr ⟨untouched_append.mpr ⟨hchanges, hpast⟩, hne, htells⟩
  shutdown huntouched htarget := by
    obtain ⟨hchanges, hpast⟩ := untouched_append.mp huntouched
    obtain ⟨rfl, rfl⟩ := hdrift.before hchanges
    exact h.shutdown hpast htarget

/-! ## Runs -/

theorem changesOf_append (reports later : List Report) :
    changesOf (reports ++ later) = changesOf reports ++ changesOf later := by
  induction reports with
  | nil => rfl
  | cons report reports ih => rw [List.cons_append, changesOf, changesOf, ih, List.append_assoc]

theorem timelineOf_append_reports (past : List Change) (reports later : List Report) :
    timelineOf past (reports ++ later) =
      timelineOf past reports ++ timelineOf (past ++ changesOf reports) later := by
  induction reports generalizing past with
  | nil => rw [changesOf, List.append_nil]; rfl
  | cons report reports ih =>
    rw [List.cons_append, timelineOf, timelineOf, ih, changesOf, List.append_assoc,
      List.append_assoc]

theorem requestsOf_append (code : Code) (reports later : List Report) :
    requestsOf code (reports ++ later) = requestsOf code reports ++ requestsOf code later := by
  induction reports with
  | nil => rfl
  | cons report reports ih => rw [List.cons_append, requestsOf, requestsOf, ih, List.append_assoc]

/-- The reports of two runs look alike, given the states of the bridge before the runs and after
them. -/
structure Coupled (name : BridgeName) (first second : Bridge.State) (reports others : List Report)
    (first' second' : Bridge.State) : Prop where
  alike : List.Forall₂ (Alike name first second) (timelineOf [] reports) (timelineOf [] others)
  requests : ∀ code, requestsOf code reports = requestsOf code others
  states : Drift name first second (changesOf reports) (changesOf others) first' second'

theorem Coupled.nil (name : BridgeName) (first second : Bridge.State) :
    Coupled name first second [] [] first second where
  alike := .nil
  requests _ := rfl
  states := .nil name first second

/-- A single step, with the steps made inside it. -/
theorem Coupled.single {report other : Report}
    (halike : Alike name first second ⟨[], report⟩ ⟨[], other⟩)
    (hinside : List.Forall₂ (Alike name first second) report.inside other.inside)
    (hstates : Drift name first second report.changes other.changes first' second') :
    Coupled name first second [report] [other] first' second' where
  alike := by
    rw [timelineOf, timelineOf, timelineOf, timelineOf, List.append_nil, List.append_nil,
      Report.timeline_eq, Report.timeline_eq]
    exact .cons halike hinside
  requests code := by
    rw [requestsOf, requestsOf, requestsOf, requestsOf, List.append_nil, List.append_nil]
    exact halike.requests code
  states := by
    rw [changesOf, changesOf, changesOf, changesOf, List.append_nil, List.append_nil]
    exact hstates

/-- What a report shows, given the contact that its step has made. -/
structure Report.Contains (report : Report) (contact : Option Contact) : Prop where
  contacts : report.contacts = contact.toList
  inside : report.inside = timelineOf [] (innerOf contact)
  changes : report.changes = changesOf (innerOf contact) ++ report.change?.toList

theorem Carries.contains {report : Report} {contact : Option Contact}
    (h : Carries report.output contact) : report.Contains contact where
  contacts := h.contacts
  inside := h.timelineIn []
  changes := by rw [report.changes_eq, h.changesIn]

/-- A single step, given what happens in its call, and what it changes and answers itself. -/
theorem Coupled.of_contains {report other : Report} {contact contact' : Option Contact}
    (hcontains : report.Contains contact) (hcontains' : other.Contains contact')
    (hstep : report.step = other.step)
    (hseen : contact.map Contact.seen = contact'.map Contact.seen)
    (hrequests : ∀ code, report.requests code = other.requests code)
    (hinner : Coupled name first second (innerOf contact) (innerOf contact') first' second')
    (hchange : Drift name first' second' report.change?.toList other.change?.toList first'' second'')
    (hstate : report.state name = first'' ∧ other.state name = second'')
    (hresult : report.result = other.result ∨
      (outline first ≠ outline second ∧ report.step.Tells name report.result other.result))
    (hshutdown : report.step.target? = some (name, .shutdown) →
      report.result = report.step.shows first.hasModule ∧
        other.result = report.step.shows second.hasModule) :
    Coupled name first second [report] [other] first'' second'' := by
  obtain ⟨rfl, rfl⟩ := hstate
  have hdrift : Drift name first second report.changes other.changes (report.state name)
      (other.state name) := by
    rw [hcontains.changes, hcontains'.changes]
    exact hinner.states.append hchange
  refine .single ⟨hstep, ?_, hrequests, Iff.rfl, hdrift, ?_, fun _ => hshutdown⟩ ?_ hdrift
  · rw [hcontains.contacts, hcontains'.contacts, ← Option.toList_map, ← Option.toList_map, hseen]
  · exact hresult.imp_right fun hdiffers => ⟨untouched_nil name, hdiffers⟩
  · rw [hcontains.inside, hcontains'.inside]
    exact hinner.alike

theorem Coupled.head {report other : Report}
    (h : Coupled name first second [report] [other] first' second') :
    Alike name first second ⟨[], report⟩ ⟨[], other⟩ := by
  have halike := h.alike
  rw [timelineOf, timelineOf, timelineOf, timelineOf, List.append_nil, List.append_nil,
    Report.timeline_eq, Report.timeline_eq] at halike
  exact (List.forall₂_cons.mp halike).1

/-- A routine goes on in the same way when a step of it has looked alike: it does not act upon the
only differences that there can be, or there are none. -/
theorem Coupled.goesOn {α : Type} {scope : Scope} {report? other? : Option Report} {step : Step}
    {next : Option Result → Routine α}
    (hperformed : Option.Rel (fun report _ => report.step = step) report? other?)
    (h : Coupled name first second report?.toList other?.toList first' second')
    (hdiscreet : outline first = outline second ∨ (Routine.step step next).Discreet scope name) :
    next (report?.map Report.result) = next (other?.map Report.result) ∧
      (outline first' = outline second' ∨
        (next (report?.map Report.result)).Discreet scope name) := by
  cases hperformed with
  | none =>
    refine ⟨rfl, hdiscreet.imp h.states.outline_eq fun hdiscreet => ?_⟩
    exact hdiscreet.2.2.1
  | @some report other hstep =>
    refine ⟨?_, ?_⟩
    · rcases h.head.result with hsame | ⟨-, hne, htells⟩
      · exact congrArg (fun result => next (some result)) hsame
      · exact (hdiscreet.resolve_left hne).2.1 _ _ (hstep ▸ htells)
    · rcases hdiscreet with hsame | hdiscreet
      · exact .inl (h.states.outline_eq hsame)
      · by_cases hchanges : step.Changes name
        · -- the step has changed the bridge, which looks the same from then on
          obtain ⟨operation, htarget, hreplaces⟩ := hchanges
          obtain ⟨change, hchange, hbridge⟩ :
              ∃ change, report.change? = some change ∧ change.bridge = name := by
            rw [Report.change?_of_target (hstep ▸ htarget), if_pos hreplaces]
            exact ⟨_, rfl, rfl⟩
          refine .inl (h.states.since fun huntouched => huntouched change ?_ hbridge)
          rw [Option.toList_some, changesOf, changesOf, List.append_nil, report.changes_eq, hchange]
          exact List.mem_append_right _ (List.mem_singleton_self change)
        · exact .inr (hdiscreet.2.2.2 hchanges _)

/-- A run behind another one. -/
theorem Coupled.append {reports reports' others others' : List Report}
    (h : Coupled name first second reports others first' second')
    (h' : Coupled name first' second' reports' others' first'' second'') :
    Coupled name first second (reports ++ reports') (others ++ others') first'' second'' where
  alike := by
    rw [timelineOf_append_reports, timelineOf_append_reports, List.nil_append, List.nil_append,
      timelineOf_eq_map (changesOf reports), timelineOf_eq_map (changesOf others)]
    refine List.rel_append h.alike ?_
    rw [List.forall₂_map_left_iff, List.forall₂_map_right_iff]
    exact h'.alike.imp fun _ _ halike => halike.behind h.states
  requests code := by
    rw [requestsOf_append, requestsOf_append, h.requests, h'.requests]
  states := by
    rw [changesOf_append, changesOf_append]
    exact h.states.append h'.states

end Host
end FailOpen
