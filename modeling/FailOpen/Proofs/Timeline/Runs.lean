import FailOpen.Proofs.Course.Invariant
import FailOpen.Proofs.Timeline.Tracks

/-!
# From reports back to the process

A timeline holds the reports of all steps of a run, at all depths.  `exists_moment_of_occurrence`
finds, for each of them, the moment of the run at which the step was made.  What is known of every
moment can so be said of every report.
-/

namespace FailOpen
namespace Host

variable {setup : Setup}

/-! ## Where a step of a timeline was made -/

/-- The steps made inside a step are those of the callback by which it reached code. -/
theorem exists_enters_of_inside {run : Runner} (hrun : Tracks setup run) {step : Step} {host : Host}
    {occurrence : Occurrence}
    (hmem : occurrence ∈ ((report setup run step).run host).1.inside) :
    ∃ held visit, Enters setup host step held visit ∧
      occurrence ∈ timelineOf [] (visit.contact run).inner := by
  have hinside : ∀ contact, Carries ((perform setup run step).run host.beginning).2.output contact →
      occurrence ∈ timelineOf [] (innerOf contact) := by
    intro contact hcarries
    rw [← hcarries.timelineIn []]
    exact hmem
  cases htarget : step.target? with
  | some target =>
    obtain ⟨name, operation⟩ := target
    obtain ⟨course, hgoes, hperforms⟩ := exists_goes_of_target setup htarget host.beginning
    obtain ⟨hcarries, -, -⟩ := hgoes.fits hrun (quiet_preface step)
    replace hcarries := hcarries.closing setup step
    rw [← congrArg (fun performed => performed.2.output) (hperforms run)] at hcarries
    have hnested := hinside _ hcarries
    cases course with
    | pass next => cases hnested
    | replace name next start notes result => cases hnested
    | reach frame visit => exact ⟨_, visit, .operation htarget hgoes, hnested⟩
  | none =>
    cases hvisit : step.directVisit? setup host.beginning with
    | some visit =>
      obtain ⟨result, hperform⟩ := perform_of_directVisit setup hvisit run
      have hcarries : Carries ((perform setup run step).run host.beginning).2.output
          (some (visit.contact run)) := by
        rw [hperform]
        exact visit.carries_ending hrun (directVisit_from hvisit) .nil
      exact ⟨0, visit, .direct hvisit, hinside _ hcarries⟩
    | none =>
      obtain ⟨result, hperform⟩ := perform_of_aside setup htarget hvisit
      have hcarries : Carries ((perform setup run step).run host.beginning).2.output none := by
        rw [hperform run]
        exact Quiet.nil.carries
      cases hinside none hcarries

/-- A step of a timeline is one of the steps of the run, or it was made inside one of them. -/
theorem exists_split_of_mem_timelineOf (run : Runner) {steps : List Step} {host : Host}
    {occurrence : Occurrence}
    (hmem : occurrence ∈ timelineOf [] ((reportAll setup run steps).run host).1) :
    ∃ made step rest, steps = made ++ step :: rest ∧
      ∃ inner, inner.report = occurrence.report ∧
        inner ∈ ((report setup run step).run ((reportAll setup run made).run host).2).1.timeline [] := by
  induction steps generalizing host occurrence with
  | nil => cases hmem
  | cons step steps ih =>
    rw [reportAll_cons_run, timelineOf, List.mem_append] at hmem
    rcases hmem with hmem | hmem
    · exact ⟨[], step, steps, rfl, occurrence, rfl, hmem⟩
    · rw [timelineOf_eq_map] at hmem
      obtain ⟨later, hlater, rfl⟩ := List.mem_map.mp hmem
      obtain ⟨made, other, rest, rfl, inner, hreport, hinner⟩ := ih hlater
      refine ⟨step :: made, other, rest, rfl, inner, hreport, ?_⟩
      rw [reportAll_cons_run]
      exact hinner

/-- Every step of a timeline was made at some moment of the run, and its report is the one that it
has if it is made there. -/
theorem exists_moment_of_occurrence {depth : Nat} {steps : List Step} {start : Host}
    {occurrence : Occurrence}
    (hmem : occurrence ∈ timelineOf [] ((runSteps setup depth steps).run start).1) :
    ∃ inCalls host nesting step, Moment setup depth start steps inCalls host ∧
      occurrence.report = ((report setup (calledBack setup nesting) step).run host).1 := by
  induction depth generalizing steps start occurrence with
  | zero =>
    obtain ⟨made, step, rest, rfl, inner, hreport, hinner⟩ :=
      exists_split_of_mem_timelineOf (calledBack setup 0) hmem
    rw [Report.timeline_eq, List.mem_cons] at hinner
    rcases hinner with rfl | hinner
    · exact ⟨0, _, 0, step, .between 0 start made (step :: rest), hreport.symm⟩
    · -- nothing is made inside calls at this depth
      obtain ⟨held, visit, -, hnested⟩ :=
        exists_enters_of_inside (calledBack_tracks 0) hinner
      unfold Visit.contact Visit.callBack at hnested
      cases hcallbacks : visit.callbacks (calledBack setup 0) with
      | none => simp [hcallbacks, Contact.inner, timelineOf] at hnested
      | some inside =>
        simp [hcallbacks, Contact.inner, all_calledBack_zero, timelineOf] at hnested
  | succ depth ih =>
    obtain ⟨made, step, rest, rfl, inner, hreport, hinner⟩ :=
      exists_split_of_mem_timelineOf (calledBack setup (depth + 1)) hmem
    rw [Report.timeline_eq, List.mem_cons] at hinner
    rcases hinner with rfl | hinner
    · exact ⟨0, _, depth + 1, step, .between (depth + 1) start made (step :: rest), hreport.symm⟩
    · obtain ⟨held, visit, henters, hnested⟩ :=
        exists_enters_of_inside (calledBack_tracks (depth + 1)) hinner
      unfold Visit.contact Visit.callBack at hnested
      cases hcallbacks : visit.callbacks (calledBack setup (depth + 1)) with
      | none =>
        rw [hcallbacks] at hnested
        cases hnested
      | some inside =>
        rw [hcallbacks, all_calledBack_succ] at hnested
        obtain ⟨inCalls, host, nesting, made', hmoment, hmade⟩ := ih hnested
        have hinside : Moment setup depth visit.host
            ((visit.callbacks (calledBack setup (depth + 1))).getD []) inCalls host := by
          rwa [hcallbacks]
        exact ⟨_, host, nesting, made', .inside henters hinside, hreport.symm.trans hmade⟩

end Host
end FailOpen
