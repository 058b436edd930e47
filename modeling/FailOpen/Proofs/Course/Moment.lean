import FailOpen.Proofs.Course.Holders

/-!
# The moments of a run

A run of steps passes through many states of the process: between the steps, and between the steps
that are made inside the code that they call, at any depth.  `Moment` describes all of them, and with
each of them the modules that are held by the calls in which it lies.

* `Enters` says that a step reaches code, and by which visit.  There is one at most (`Enters.unique`).
* `exists_enters` says that performing a step is entering that code, going through what it does in the
  state that it finds, and finishing; `perform_congr` concludes that the steps of callbacks are made
  at the moments described here and at no others.
* `Moment.accounted` says that at every moment the loader has counted exactly the bridges and the
  calls under way as holders.
-/

namespace FailOpen
namespace Host

/-- A step reaches code by the given visit, and holds the given modules until the code has
answered. -/
inductive Enters (setup : Setup) (host : Host) (step : Step) :
    Multiset Loader.Module → Visit → Prop
  | operation {name operation frame visit} (htarget : step.target? = some (name, operation))
      (hgoes : Goes setup (host.beginning.observe step.preface) name operation
        (.reach frame visit)) : Enters setup host step frame.held visit
  | direct {visit} (hvisit : step.directVisit? setup host.beginning = some visit) :
      Enters setup host step 0 visit

/-- The process at some moment of a run that performs callbacks to the given depth, and what is held
then by the calls under way. -/
inductive Moment (setup : Setup) : Nat → Host → List Step → Multiset Loader.Module → Host → Prop
  | between (depth : Nat) (start : Host) (made rest : List Step) :
      Moment setup depth start (made ++ rest) 0 ((runSteps setup depth made).run start).2
  | inside {depth start made step rest held visit inner host}
      (henters : Enters setup ((runSteps setup (depth + 1) made).run start).2 step held visit)
      (hinner : Moment setup depth visit.host
        ((visit.callbacks (calledBack setup (depth + 1))).getD []) inner host) :
      Moment setup (depth + 1) start (made ++ step :: rest) (held + inner) host

/-- The process at some moment of the code that a step calls. -/
def During (setup : Setup) (depth : Nat) (host : Host) (step : Step) (moment : Host) : Prop :=
  ∃ held visit inner, Enters setup host step held visit ∧
    Moment setup depth visit.host ((visit.callbacks (calledBack setup (depth + 1))).getD []) inner
      moment

variable {setup : Setup} {base : Loader} {around : Multiset Loader.Module} {host : Host}

/-! ## Where the program calls back -/

theorem Step.directVisit?_of_target {step : Step} {target : BridgeName × Operation}
    (htarget : step.target? = some target) : step.directVisit? setup host = none := by
  cases step <;> first | rfl | cases htarget

/-- A step reaches code in one way at most. -/
theorem Enters.unique {step : Step} {held held' : Multiset Loader.Module} {visit visit' : Visit}
    (h : Enters setup host step held visit) (h' : Enters setup host step held' visit') :
    held = held' ∧ visit = visit' := by
  cases h with
  | operation htarget hgoes =>
    cases h' with
    | operation htarget' hgoes' =>
      obtain ⟨rfl, rfl⟩ := Prod.mk.inj (Option.some.inj (htarget.symm.trans htarget'))
      obtain ⟨rfl, rfl⟩ := Course.reach.inj (hgoes.unique hgoes')
      exact ⟨rfl, rfl⟩
    | direct hvisit =>
      rw [Step.directVisit?_of_target htarget] at hvisit
      cases hvisit
  | direct hvisit =>
    cases h' with
    | operation htarget hgoes =>
      rw [Step.directVisit?_of_target htarget] at hvisit
      cases hvisit
    | direct hvisit' => exact ⟨rfl, Option.some.inj (hvisit.symm.trans hvisit')⟩

/-- A step reaches no code, and then nobody else has a hand in it.  Or else it enters code by a visit:
whoever makes the steps of callbacks, performing the step is making those of the visit, beginning in
the process of the visit, and doing then what depends on the answer and on where they have led. -/
theorem exists_enters (setup : Setup) (host : Host) (step : Step) :
    ((∀ held visit, ¬ Enters setup host step held visit) ∧
        ∃ performed, ∀ run, (perform setup run step).run host.beginning = performed) ∨
      ∃ held visit, Enters setup host step held visit ∧
        ∃ finish : Answer → Option (List Report) × Host → Result × Host, ∀ run,
          (perform setup run step).run host.beginning =
            finish (visit.answer run) (visit.callBack run) := by
  cases htarget : step.target? with
  | some target =>
    obtain ⟨course, hgoes, hperforms⟩ := exists_goes_of_target setup htarget host.beginning
    have hnone : (∀ frame visit, course ≠ .reach frame visit) →
        ∀ held visit, ¬ Enters setup host step held visit := by
      intro hcourse held visit henters
      cases henters with
      | operation htarget' hgoes' =>
        obtain rfl := Option.some.inj (htarget.symm.trans htarget')
        exact hcourse _ _ (hgoes.unique hgoes')
      | direct hvisit =>
        rw [Step.directVisit?_of_target htarget] at hvisit
        cases hvisit
    cases course with
    | pass next =>
      exact .inl ⟨hnone (by simp), (step.shows false, next.closing setup step), hperforms⟩
    | replace replaced next start notes b =>
      exact .inl ⟨hnone (by simp), (step.shows b,
        ((start.replacing replaced next).observe notes).closing setup step), hperforms⟩
    | reach frame visit =>
      refine .inr ⟨_, visit, .operation htarget hgoes, fun answer back =>
        (step.shows (frame.yields answer), (frame.leave answer (back.2.observe
          (.called visit.party visit.call back.1 answer :: visit.notes))).closing setup step), ?_⟩
      exact hperforms
  | none =>
    cases hvisit : step.directVisit? setup host.beginning with
    | some visit =>
      exact .inr ⟨0, visit, .direct hvisit, fun answer back =>
        (step.relays answer, back.2.observe
          (.called visit.party visit.call back.1 answer :: visit.notes)),
        fun run => perform_directVisit setup run hvisit⟩
    | none =>
      refine .inl ⟨fun held visit henters => ?_, _, fun run => perform_aside setup run htarget hvisit⟩
      cases henters with
      | operation htarget' hgoes =>
        rw [htarget] at htarget'
        cases htarget'
      | direct hvisit' =>
        rw [hvisit] at hvisit'
        cases hvisit'

/-- A runner that makes steps as callbacks are made, at every moment of the code that a step calls,
performs the step in the same way: the program calls back in no other state. -/
theorem perform_congr {depth : Nat} {step : Step} {run : Runner}
    (hrun : ∀ nested moment, During setup depth host step moment →
      (run nested).run moment = (calledBack setup (depth + 1) nested).run moment) :
    (perform setup run step).run host.beginning =
      (perform setup (calledBack setup (depth + 1)) step).run host.beginning := by
  rcases exists_enters setup host step with
    ⟨-, performed, hperforms⟩ | ⟨held, visit, henters, finish, hperforms⟩
  · rw [hperforms, hperforms]
  · rw [hperforms, hperforms]
    cases hreaction : visit.reaction with
    | answer a =>
      have hplain : visit.Plain a := hreaction
      unfold Visit.callBack
      rw [hplain.answer_eq, hplain.answer_eq, hplain.callbacks_eq, hplain.callbacks_eq]
    | callBack routine =>
      -- every state on the way of the routine is a moment between the steps of the callback
      have hcongr := routine.steps_congr visit.host fun made nested rest heq => by
        refine hrun nested _ ⟨held, visit, 0, henters, ?_⟩
        rw [all_calledBack_succ, Visit.callbacks, hreaction]
        show Moment setup depth visit.host (routine.steps _ visit.host) 0 _
        rw [heq]
        exact .between depth visit.host made (nested :: rest)
      obtain ⟨-, hanswer, hran⟩ := hcongr
      obtain ⟨hanswered, hperformed⟩ := visit.callBack_of_reaction hreaction run
      obtain ⟨hanswered', hperformed'⟩ :=
        visit.callBack_of_reaction hreaction (calledBack setup (depth + 1))
      rw [hanswered, hperformed, hanswered', hperformed', hanswer, hran]

/-! ## What has been counted -/

/-- The last moment of a run. -/
theorem Moment.last (depth : Nat) (steps : List Step) (start : Host) :
    Moment setup depth start steps 0 ((runSteps setup depth steps).run start).2 := by
  have hbetween : Moment setup depth start (steps ++ []) 0 _ := .between depth start steps []
  rwa [List.append_nil] at hbetween

/-- When code is entered, what the call holds has been counted. -/
theorem Enters.accounted {step : Step} {held : Multiset Loader.Module} {visit : Visit}
    (henters : Enters setup host step held visit) (h : host.Accounted base around) :
    visit.host.Accounted base (held + around) := by
  have hbeginning : host.beginning.Accounted base around := h
  cases henters with
  | operation htarget hgoes => exact hgoes.accounted (hbeginning.observe step.preface)
  | direct hvisit => exact (accounted_directVisit hbeginning hvisit).cast (zero_add around).symm

/-- At every moment the loader has counted the bridges, the calls under way and whatever was held
around the run, and nobody else. -/
theorem Moment.accounted {depth : Nat} {start : Host} {steps : List Step}
    {inner : Multiset Loader.Module} (hmoment : Moment setup depth start steps inner host)
    (h : start.Accounted base around) : host.Accounted base (inner + around) := by
  induction hmoment generalizing around with
  | between depth start made rest =>
    exact (runSteps_keeps setup depth made h).cast (zero_add around).symm
  | @inside depth start made step rest held visit inner host henters hinner ih =>
    have hmade := runSteps_keeps setup (depth + 1) made h
    -- what the call holds is around everything that happens inside it
    refine (ih (henters.accounted hmade)).cast ?_
    abel

/-- What a call holds stays mapped at every moment of the call. -/
theorem During.isMapped {depth : Nat} {step : Step} {moment : Host}
    (hduring : During setup depth host step moment) (h : host.Accounted base around)
    {module : Loader.Module}
    (hheld : ∀ {held visit}, Enters setup host step held visit → module ∈ held) :
    moment.loader.isMapped module.file := by
  obtain ⟨held, visit, inner, henters, hmoment⟩ := hduring
  have hmem : module ∈ held + around := Multiset.mem_add.mpr (.inl (hheld henters))
  exact (hmoment.accounted (henters.accounted h)).isMapped (Multiset.mem_add.mpr (.inr hmem))

end Host
end FailOpen
