import FailOpen.Proofs.Course.Moment

/-!
# Induction over runs, and invariants

A run is a list of steps, and the steps that code makes in its callbacks are runs again, one level
less deep.  What holds of every run is therefore shown for a single step, given that it holds of the
runs inside that step.  `runSteps_induction` does the two inductions behind this once for all.

An invariant is kept by every way in which an operation can go, and by everything else that a step
can do.  `Invariant` lists what has to be shown for that, one field for each kind of thing that
happens to a process, and the rest of the module concludes that an invariant holds after every run
and at every moment of it.

When code is left, the process is whatever the steps made inside the call have left behind.  It
`Follows` the process in which the code was entered, so other invariants can be carried across the
call.
-/

namespace FailOpen
namespace Host

variable (setup : Setup)

variable {setup} in
/-- To show something of all runs it is enough to show it of the empty run, to put a step before a
run, and to show it of a step whose callbacks are such runs. -/
theorem runSteps_induction (Run : Host → List Report × Host → Prop)
    (Single : Host → Report × Host → Prop) (hnil : ∀ host, Run host ([], host))
    (hcons : ∀ host (first : Report × Host) (others : List Report × Host),
      Single host first → Run first.2 others → Run host (first.1 :: others.1, others.2))
    (hreport : ∀ depth, (∀ steps host, Run host (((calledBack setup depth).all steps).run host)) →
      ∀ step host, Single host ((report setup (calledBack setup depth) step).run host))
    (depth : Nat) (steps : List Step) (host : Host) :
    Run host ((runSteps setup depth steps).run host) := by
  -- by induction on the depth, and for each depth by induction on the steps
  have hall : ∀ depth, (∀ steps host, Run host (((calledBack setup depth).all steps).run host)) →
      ∀ steps host, Run host ((runSteps setup depth steps).run host) := by
    intro depth hcalled steps
    rw [runSteps_eq_reportAll]
    induction steps with
    | nil => exact hnil
    | cons step steps ih =>
      intro host
      rw [reportAll_cons_run]
      exact hcons host _ _ (hreport depth hcalled step host) (ih _)
  induction depth generalizing steps host with
  | zero =>
    refine hall 0 (fun steps host => ?_) steps host
    rw [all_calledBack_zero]
    exact hnil host
  | succ depth ih =>
    refine hall (depth + 1) (fun steps host => ?_) steps host
    rw [all_calledBack_succ]
    exact ih steps host

/-- The process is what a run leaves behind, but for what is observed. -/
def Follows (before after : Host) : Prop :=
  ∃ depth steps output, after = { ((runSteps setup depth steps).run before).2 with output }

/-- What has to be shown of a property of processes to know that no step can break it. -/
structure Invariant (P : Host → Prop) : Prop where
  observes : ∀ {host : Host}, P host → ∀ output, P { host with output }
  registers : ∀ {host : Host}, P host → ∀ exitCleanup exitFailures,
    P { host with exitCleanup, exitFailures }
  stores : ∀ {host : Host}, P host → ∀ disk, P (host.withDisk disk)
  calls : ∀ {host : Host} {step : Step} {visit : Visit},
    step.directVisit? setup host = some visit → P host → P visit.host
  replaces : ∀ {host : Host} {name operation next start notes b},
    Goes setup host name operation (.replace name next start notes b) → P host →
      P (start.replacing name next)
  enters : ∀ {host : Host} {name operation frame visit},
    Goes setup host name operation (.reach frame visit) → P host → P visit.host
  leaves : ∀ {host : Host} {name operation frame visit after},
    Goes setup host name operation (.reach frame visit) → P host →
      Follows setup visit.host after → P after → ∀ run, P (frame.leave (visit.answer run) after)

variable {setup} {P : Host → Prop} {host : Host}

/-- When a visit has ended, the process follows the one in which the code was entered. -/
theorem Visit.follows_ending (depth : Nat) (visit : Visit) :
    Follows setup visit.host (visit.ending (calledBack setup depth)) := by
  unfold ending callBack
  cases visit.callbacks (calledBack setup depth) with
  | none => exact ⟨0, [], _, rfl⟩
  | some steps =>
    cases depth with
    | zero =>
      dsimp only
      rw [all_calledBack_zero]
      exact ⟨0, [], _, rfl⟩
    | succ depth =>
      dsimp only
      rw [all_calledBack_succ]
      exact ⟨depth, steps, _, rfl⟩

theorem Invariant.holds_ending (h : Invariant setup P) {run : Runner}
    (hrun : ∀ steps host, P host → P ((run.all steps).run host).2) {visit : Visit}
    (hvisit : P visit.host) : P (visit.ending run) := by
  unfold Visit.ending Visit.callBack
  cases visit.callbacks run with
  | none => exact h.observes hvisit _
  | some steps => exact h.observes (hrun steps visit.host hvisit) _

theorem Invariant.holds_closing (h : Invariant setup P) (step : Step) (hhost : P host) :
    P (host.closing setup step) := by
  obtain ⟨cleanup, failures, hclosing⟩ := closing_cases setup step host
  rw [hclosing]
  exact h.observes (h.registers hhost cleanup failures) _

/-- The step lemma: a step keeps an invariant if the runs inside it do. -/
theorem Invariant.holds_report (h : Invariant setup P) {depth : Nat}
    (hrun : ∀ steps host, P host → P (((calledBack setup depth).all steps).run host).2)
    (step : Step) (hhost : P host) :
    P ((report setup (calledBack setup depth) step).run host).2 := by
  have hbeginning : P host.beginning := h.observes hhost []
  have hperformed : P ((perform setup (calledBack setup depth) step).run host.beginning).2 := by
    cases htarget : step.target? with
    | some target =>
      obtain ⟨name, operation⟩ := target
      have hstart : P (host.beginning.observe step.preface) := h.observes hbeginning _
      obtain ⟨course, hgoes, hperform⟩ := exists_goes_of_target setup htarget host.beginning
      rw [hperform]
      refine h.holds_closing step ?_
      cases course with
      | pass next =>
        cases hgoes with
        | unheard hdemand hengine => exact h.observes hstart _
      | replace other next start notes b =>
        obtain rfl : other = name := by cases hgoes <;> rfl
        exact h.observes (h.replaces hgoes hstart) _
      | reach frame visit =>
        exact h.leaves hgoes hstart (visit.follows_ending depth)
          (h.holds_ending hrun (h.enters hgoes hstart)) _
    | none =>
      cases hvisit : step.directVisit? setup host.beginning with
      | some visit =>
        obtain ⟨result, hperform⟩ := perform_of_directVisit setup hvisit (calledBack setup depth)
        rw [hperform]
        exact h.holds_ending hrun (h.calls hvisit hbeginning)
      | none =>
        obtain ⟨result, hperform⟩ := perform_of_aside setup htarget hvisit
        rw [hperform]
        exact h.stores hbeginning _
  exact h.observes hperformed host.output

/-- An invariant holds after every run of a process in which it holds. -/
theorem Invariant.holds_runSteps (h : Invariant setup P) (depth : Nat) (steps : List Step)
    (hhost : P host) : P ((runSteps setup depth steps).run host).2 :=
  runSteps_induction (fun host ran => P host → P ran.2) (fun host ran => P host → P ran.2)
    (fun _ hhost => hhost)
    (fun _ _ _ hfirst hothers hhost => hothers (hfirst hhost))
    (fun _ hrun step _ hhost => h.holds_report hrun step hhost) depth steps host hhost

theorem Invariant.holds_follows (h : Invariant setup P) {after : Host}
    (hfollows : Follows setup host after) (hhost : P host) : P after := by
  obtain ⟨depth, steps, output, rfl⟩ := hfollows
  exact h.observes (h.holds_runSteps depth steps hhost) output

theorem Invariant.holds_enters (h : Invariant setup P) {step : Step}
    {held : Multiset Loader.Module} {visit : Visit} (henters : Enters setup host step held visit)
    (hhost : P host) : P visit.host := by
  have hbeginning : P host.beginning := h.observes hhost []
  cases henters with
  | operation htarget hgoes => exact h.enters hgoes (h.observes hbeginning _)
  | direct hvisit => exact h.calls hvisit hbeginning

/-- An invariant holds at every moment of a run of a process in which it holds. -/
theorem Invariant.holds_moment (h : Invariant setup P) {depth : Nat} {start : Host}
    {steps : List Step} {inCalls : Multiset Loader.Module}
    (hmoment : Moment setup depth start steps inCalls host) (hstart : P start) : P host := by
  induction hmoment with
  | between depth start made rest => exact h.holds_runSteps depth made hstart
  | inside henters hinner ih => exact ih (h.holds_enters henters (h.holds_runSteps _ _ hstart))

end Host
end FailOpen
