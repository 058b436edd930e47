import FailOpen.Proofs.Timeline.Tracks

/-!
# The changes of a run

The last change of a bridge decides its state.  Every change in a truthful run was made by a step of
that run, and is therefore `Lawful`: it is what an attempt publishes, a disabling, or a shutdown.

* `madeLastOf_changesOf` finds the step that made a change, for any of the first changes of a run.
* `lawful_of_mem_changesOf` and `lawful_of_mem_span` state that changes are lawful, for those of a
  whole run and for those up to the end of one of its steps.
* `Change.Lawful.accepted_eq` says that the engine in a new state leads to the code whose startup was
  accepted in the attempt that made the change, and nowhere if there is none.
-/

namespace FailOpen
namespace Host

variable {setup : Setup}

/-! ## Where changes come from -/

theorem prefix_or_exceeds {first second changes : List Change}
    (h : changes <+: first ++ second) :
    changes <+: first ∨ ∃ rest, changes = first ++ rest ∧ rest <+: second := by
  obtain ⟨beyond, hbeyond⟩ := h
  rcases List.append_eq_append_iff.mp hbeyond with ⟨rest, hfirst, -⟩ | ⟨rest, hchanges, hsecond⟩
  · exact .inl ⟨rest, hfirst.symm⟩
  · exact .inr ⟨rest, hchanges, beyond, hsecond.symm⟩

theorem eq_nil_or_singleton_of_prefix {own : Option Change} {changes : List Change}
    (h : changes <+: own.toList) :
    changes = [] ∨ ∃ change, own = some change ∧ changes = [change] := by
  cases own with
  | none => exact .inl (List.prefix_nil.mp h)
  | some change =>
    rcases List.prefix_cons_iff.mp h with rfl | ⟨rest, rfl, hrest⟩
    · exact .inl rfl
    · exact .inr ⟨change, rfl, by rw [List.prefix_nil.mp hrest]⟩

/-- The step in which the last of some changes was made, among the steps of a timeline that begins
after other changes. -/
def MadeLastOf (changes past : List Change) (timeline : List Occurrence) : Prop :=
  ∃ occurrence ∈ timeline,
    occurrence.span = past ++ changes ∧ occurrence.report.change? = changes.getLast?

/-- If the first of two timelines does not hold the step that made a change, the second does. -/
theorem MadeLastOf.append {changes first second past : List Change}
    {timeline later : List Occurrence} (hne : changes ≠ []) (h : changes <+: first ++ second)
    (hfirst : changes <+: first → MadeLastOf changes past timeline)
    (hsecond : ∀ rest, rest ≠ [] → rest <+: second → MadeLastOf rest (past ++ first) later) :
    MadeLastOf changes past (timeline ++ later) := by
  have hleft : changes <+: first → MadeLastOf changes past (timeline ++ later) := by
    intro hprefix
    obtain ⟨occurrence, hmem, hmade⟩ := hfirst hprefix
    exact ⟨occurrence, List.mem_append_left _ hmem, hmade⟩
  rcases prefix_or_exceeds h with hprefix | ⟨rest, rfl, hrest⟩
  · exact hleft hprefix
  · -- if nothing is left over for the second timeline, the last change is in the first one
    by_cases hrestne : rest = []
    · subst hrestne
      exact hleft (by simp)
    · obtain ⟨occurrence, hmem, hspan, hchange⟩ := hsecond rest hrestne hrest
      refine ⟨occurrence, List.mem_append_right _ hmem, by rw [hspan, List.append_assoc], ?_⟩
      rw [hchange, List.getLast?_append, List.getLast?_eq_some_getLast hrestne, Option.some_or]

-- Both of the following recursions are on the reports, through the calls in their outputs.

mutual

theorem Report.madeLastOf {changes : List Change} (past : List Change) (hne : changes ≠ []) :
    ∀ report : Report, changes <+: report.changes →
      MadeLastOf changes past (report.timeline past)
  | ⟨step, result, output, own, shared⟩, h => by
      rw [Report.changes] at h
      rcases prefix_or_exceeds h with hprefix | ⟨rest, rfl, hrest⟩
      · obtain ⟨occurrence, hmem, hmade⟩ := madeLastOf_changesIn past hne output hprefix
        exact ⟨occurrence, List.mem_cons_of_mem _ hmem, hmade⟩
      · rcases eq_nil_or_singleton_of_prefix hrest with rfl | ⟨change, hown, rfl⟩
        · rw [List.append_nil] at hne ⊢
          obtain ⟨occurrence, hmem, hmade⟩ :=
            madeLastOf_changesIn past hne output List.prefix_rfl
          exact ⟨occurrence, List.mem_cons_of_mem _ hmem, hmade⟩
        · -- all changes inside the step and its own: the step itself has made the last one
          refine ⟨_, List.mem_cons_self, ?_, by rw [hown, List.getLast?_concat]⟩
          rw [Occurrence.span, Report.changes, hown, Option.toList_some]

theorem madeLastOf_changesIn {changes : List Change} (past : List Change) (hne : changes ≠ []) :
    ∀ output : List (Observation Report), changes <+: changesIn output →
      MadeLastOf changes past (timelineIn past output)
  | [], h => (hne (List.prefix_nil.mp h)).elim
  | observation :: output, h =>
      .append hne h (observation.madeLastOf past hne) fun _ hrest =>
        madeLastOf_changesIn (past ++ observation.changes) hrest output

theorem Observation.madeLastOf {changes : List Change} (past : List Change) (hne : changes ≠ []) :
    ∀ observation : Observation Report, changes <+: observation.changes →
      MadeLastOf changes past (observation.timeline past)
  | .called _ _ (some reports) _, h => madeLastOf_changesOf past hne reports h
  | .called _ _ none _, h => (hne (List.prefix_nil.mp h)).elim
  | .analyzed _ _, h => (hne (List.prefix_nil.mp h)).elim
  | .logged _, h => (hne (List.prefix_nil.mp h)).elim
  | .analyzerLogged _ _, h => (hne (List.prefix_nil.mp h)).elim
  | .printed _, h => (hne (List.prefix_nil.mp h)).elim

/-- The first changes of a run, however many of them, end with the change that some step of the run
made when it ended. -/
theorem madeLastOf_changesOf {changes : List Change} (past : List Change) (hne : changes ≠ []) :
    ∀ reports : List Report, changes <+: changesOf reports →
      MadeLastOf changes past (timelineOf past reports)
  | [], h => (hne (List.prefix_nil.mp h)).elim
  | report :: reports, h =>
      .append hne h (report.madeLastOf past hne) fun _ hrest =>
        madeLastOf_changesOf (past ++ report.changes) hrest reports

end

mutual

theorem Report.span_prefix (past : List Change) : ∀ (report : Report) {occurrence : Occurrence},
    occurrence ∈ report.timeline past → occurrence.span <+: past ++ report.changes
  | ⟨step, result, output, own, shared⟩, occurrence, hmem => by
      rw [Report.timeline, List.mem_cons] at hmem
      rcases hmem with rfl | hmem
      · exact List.prefix_rfl
      · rw [Report.changes, ← List.append_assoc]
        exact (span_prefix_of_mem_timelineIn past output hmem).trans (List.prefix_append _ _)

theorem span_prefix_of_mem_timelineIn (past : List Change) :
    ∀ (output : List (Observation Report)) {occurrence : Occurrence},
      occurrence ∈ timelineIn past output → occurrence.span <+: past ++ changesIn output
  | [], _, hmem => nomatch hmem
  | observation :: output, occurrence, hmem => by
      rw [timelineIn, List.mem_append] at hmem
      rw [changesIn, ← List.append_assoc]
      rcases hmem with hmem | hmem
      · exact (observation.span_prefix past hmem).trans (List.prefix_append _ _)
      · exact span_prefix_of_mem_timelineIn (past ++ observation.changes) output hmem

theorem Observation.span_prefix (past : List Change) :
    ∀ (observation : Observation Report) {occurrence : Occurrence},
      occurrence ∈ observation.timeline past → occurrence.span <+: past ++ observation.changes
  | .called _ _ (some reports) _, _, hmem => span_prefix_of_mem_timelineOf past reports hmem
  | .called _ _ none _, _, hmem => nomatch hmem
  | .analyzed _ _, _, hmem => nomatch hmem
  | .logged _, _, hmem => nomatch hmem
  | .analyzerLogged _ _, _, hmem => nomatch hmem
  | .printed _, _, hmem => nomatch hmem

/-- The changes up to the end of a step are the first ones of the run around it. -/
theorem span_prefix_of_mem_timelineOf (past : List Change) :
    ∀ (reports : List Report) {occurrence : Occurrence}, occurrence ∈ timelineOf past reports →
      occurrence.span <+: past ++ changesOf reports
  | [], _, hmem => nomatch hmem
  | report :: reports, occurrence, hmem => by
      rw [timelineOf, List.mem_append] at hmem
      rw [changesOf, ← List.append_assoc]
      rcases hmem with hmem | hmem
      · exact (report.span_prefix past hmem).trans (List.prefix_append _ _)
      · exact span_prefix_of_mem_timelineOf (past ++ report.changes) reports hmem

end

/-- Every change of a run was made by one of its steps. -/
theorem exists_of_mem_changesOf {change : Change} {reports : List Report}
    (h : change ∈ changesOf reports) :
    ∃ occurrence ∈ timelineOf [] reports, occurrence.report.change? = some change := by
  obtain ⟨before, after, hchanges⟩ := List.append_of_mem h
  have hprefix : before ++ [change] <+: changesOf reports := ⟨after, by simp [hchanges]⟩
  obtain ⟨occurrence, hmem, -, hchange⟩ := madeLastOf_changesOf [] (by simp) reports hprefix
  exact ⟨occurrence, hmem, by simpa using hchange⟩

/-! ## Lawful changes -/

/-- The changes that operations make. -/
inductive Change.Lawful (setup : Setup) : Change → Prop
  | attempt {name : BridgeName} {accepted : Option Party} {state : Bridge.State}
      (hpublished : Published setup accepted state) : Lawful setup ⟨name, accepted, state⟩
  | disable {name : BridgeName} {reason : Bridge.Reason} :
      Lawful setup ⟨name, none, .disabled reason none⟩
  | shutdown {name : BridgeName} : Lawful setup ⟨name, none, .unloaded⟩

/-- The engine in a new state leads to the code whose startup was accepted. -/
theorem Change.Lawful.accepted_eq {change : Change} (h : change.Lawful setup) :
    change.accepted = partyOf change.state.engine := by
  cases h with
  | attempt hpublished =>
    cases hpublished with
    | supplied hparty hmodule => exact hparty.symm
    | _ => rfl
  | disable => rfl
  | shutdown => rfl

theorem Report.Faithful.lawful_change? {before : BridgeName → Bridge.State} {report : Report}
    (hfaithful : report.Faithful setup before) {change : Change}
    (hchange : report.change? = some change) : change.Lawful setup := by
  cases htarget : report.step.target? with
  | none =>
    rw [Report.change?, htarget] at hchange
    cases hchange
  | some target =>
    obtain ⟨name, operation⟩ := target
    rw [Report.change?_of_target htarget] at hchange
    have hattempt : operation.isAttempt → change.Lawful setup := by
      intro h
      rw [Operation.replaces_of_isAttempt h, if_pos rfl, if_pos h] at hchange
      obtain rfl := Option.some.inj hchange
      exact .attempt (hfaithful.attempts htarget h).1
    cases operation with
    | startInstalled args => exact hattempt rfl
    | startFrom path args => exact hattempt rfl
    | startSupplied engine args => exact hattempt rfl
    | disable reason =>
      obtain rfl := Option.some.inj hchange
      rw [hfaithful.disables htarget]
      exact .disable
    | shutdown =>
      obtain rfl := Option.some.inj hchange
      rw [(hfaithful.shutsDown htarget).1]
      exact .shutdown
    | decideBlock exchange => cases hchange
    | ingest trace => cases hchange

/-- The changes of a truthful run are lawful. -/
theorem lawful_of_mem_changesOf {before : BridgeName → Bridge.State} {reports : List Report}
    (htruthful : Truthful setup before reports) {change : Change}
    (hmem : change ∈ changesOf reports) : change.Lawful setup := by
  obtain ⟨occurrence, hoccurrence, hchange⟩ := exists_of_mem_changesOf hmem
  exact (htruthful occurrence hoccurrence).lawful_change? hchange

/-- The changes up to the end of a step in a truthful run are lawful. -/
theorem lawful_of_mem_span {before : BridgeName → Bridge.State} {reports : List Report}
    (htruthful : Truthful setup before reports) {occurrence : Occurrence}
    (hoccurrence : occurrence ∈ timelineOf [] reports) {change : Change}
    (hmem : change ∈ occurrence.span) : change.Lawful setup :=
  lawful_of_mem_changesOf htruthful
    ((span_prefix_of_mem_timelineOf [] reports hoccurrence).subset hmem)

/-- The last change of a bridge, with what came before it and what came after it. -/
theorem split_of_latest? {past : List Change} {name : BridgeName} {change : Change}
    (h : latest? past name = some change) :
    ∃ before after, past = before ++ [change] ++ after ∧ ∀ later ∈ after, later.bridge ≠ name := by
  obtain ⟨others, hfilter⟩ := List.getLast?_eq_some_iff.mp h
  obtain ⟨front, back, rfl, -, hback⟩ := List.filter_eq_append_iff.mp hfilter
  obtain ⟨skipped, after, rfl, -, -, hafter⟩ := List.filter_eq_cons_iff.mp hback
  refine ⟨front ++ skipped, after, by simp, fun later hlater hbridge => ?_⟩
  exact List.filter_eq_nil_iff.mp hafter later hlater (decide_eq_true hbridge)

theorem mem_of_latest? {past : List Change} {name : BridgeName} {change : Change}
    (h : latest? past name = some change) : change ∈ past ∧ change.bridge = name := by
  have hmem := List.mem_of_getLast? h
  rw [List.mem_filter, decide_eq_true_eq] at hmem
  exact hmem

end Host
end FailOpen
