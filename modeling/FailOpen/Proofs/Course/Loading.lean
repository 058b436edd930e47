import FailOpen.Proofs.Course.Conduct
import FailOpen.Proofs.Course.Invariant
import FailOpen.Proofs.Loader.Lookup

/-!
# What a process does to its loader

A process loads files, passes modules on and lets them go, and changes the data of files.  What these
things keep of a loader is kept by every step, unless it changes the disk: this module goes through
everything that a step does once, for any such `Lasting` property.

* `runSteps_guarded` says so of steps that leave the property alone when they change the disk.
* `lasting_invariant` is about properties for which the disk does not matter.  One of them is that
  only mapped files have names.
-/

namespace FailOpen

/-- A property of loaders that nothing breaks but a change of the disk. -/
structure Loader.Lasting (P : Loader → Prop) : Prop where
  load : ∀ {loader path module next}, P loader → loader.load path = .ok (module, next) → P next
  retain : ∀ {loader : Loader}, P loader → ∀ module, P (loader.retain module)
  release : ∀ {loader : Loader}, P loader → ∀ module, P (loader.release module)
  modifyStatics : ∀ {loader : Loader}, P loader → ∀ file f, P (loader.modifyStatics file f)

theorem Loader.Disk.Settled.lasting {disk : Loader.Disk} (h : disk.Settled) :
    Loader.Lasting fun loader => loader.Follows disk where
  load hfollows hload := hfollows.load h hload
  retain hfollows := hfollows.retain
  release hfollows := hfollows.release
  modifyStatics hfollows := hfollows.modifyStatics

theorem Loader.named_lasting : Loader.Lasting Loader.Named where
  load hnamed hload := hnamed.load hload
  retain hnamed := hnamed.retain
  release hnamed := hnamed.release
  modifyStatics hnamed := hnamed.modifyStatics

namespace Host

variable {P : Loader → Prop} {setup : Setup} {host : Host}

section

variable (hlasting : Loader.Lasting P)

include hlasting

/-! ## What operations consist of -/

theorem lasting_holding (h : P host.loader) (module : Option Loader.Module) :
    P (host.holding module).loader := by
  cases module with
  | none => exact h
  | some module => exact hlasting.retain h module

theorem lasting_lettingGo (h : P host.loader) (module : Option Loader.Module) :
    P (host.lettingGo module).loader := by
  cases module with
  | none => exact h
  | some module => exact hlasting.release h module

theorem lasting_replacing (h : P host.loader) (name : BridgeName) (next : Bridge.State) :
    P (host.replacing name next).loader := by
  refine lasting_lettingGo hlasting (lasting_lettingGo hlasting ?_ _) _
  cases name <;> exact h

theorem lasting_modifyStatics (h : P host.loader) (code : Code)
    (f : Loader.Statics → Loader.Statics) : P (host.modifyStatics code f).loader := by
  cases code with
  | linked unit => exact h
  | image file => exact hlasting.modifyStatics h file f

theorem lasting_entryVisit (h : P host.loader) (code : Code) (call : Call) :
    P (entryVisit setup host code call).host.loader := by
  unfold entryVisit
  cases setup.program code with
  | coded entryCode => exact lasting_modifyStatics hlasting h _ _
  | analyzer analyzer =>
    exact lasting_modifyStatics hlasting (lasting_modifyStatics hlasting h _ _) _ _

theorem lasting_visitOf (h : P host.loader) {engine : Engine} {demand : Demand} {visit : Visit}
    (hvisit : visitOf setup host engine demand = some visit) : P visit.host.loader := by
  cases engine with
  | inert => cases hvisit
  | custom custom =>
    obtain rfl := Option.some.inj hvisit
    exact h
  | native native =>
    obtain rfl := Option.some.inj hvisit
    exact lasting_entryVisit hlasting h native.code demand.call

theorem lasting_directVisit (h : P host.loader) {step : Step} {visit : Visit}
    (hvisit : step.directVisit? setup host = some visit) : P visit.host.loader := by
  rcases visit_of_directVisit? setup hvisit with ⟨engine, demand, hvisit⟩ | ⟨code, call, rfl⟩
  · exact lasting_visitOf hlasting h hvisit
  · exact lasting_entryVisit hlasting h code call

theorem Frame.lasting_leave (h : P host.loader) (frame : Frame) (answer : Answer) :
    P (frame.leave answer host).loader := by
  have hobserved : ∀ output, P (host.observe output).loader := fun _ => h
  cases frame with
  | attempt name engine module =>
    unfold leave
    rcases answer.startup with started | _
    · cases started with
      | true => exact lasting_replacing hlasting (hobserved _) _ _
      | false =>
        exact lasting_replacing hlasting (lasting_lettingGo hlasting (hobserved _) _) _ _
    · exact lasting_replacing hlasting (lasting_lettingGo hlasting (hobserved _) _) _ _
  | deciding engine =>
    unfold leave
    cases answer.decision <;> exact lasting_lettingGo hlasting (hobserved _) _
  | ingesting engine =>
    unfold leave
    cases answer.ingestion with
    | returned done => exact lasting_lettingGo hlasting h _
    | panicked => exact lasting_lettingGo hlasting (hobserved _) _

/-! ## The ways of operations -/

variable {name : BridgeName} {operation : Operation}

theorem Goes.lasting_enter {frame : Frame} {visit : Visit}
    (hgoes : Goes setup host name operation (.reach frame visit)) (h : P host.loader) :
    P visit.host.loader := by
  cases hgoes with
  | @startsLoaded path args module loader visit hloads hload hcomplete hvisit =>
    have hloaded : P (host.loaded path loader).loader := hlasting.load h hload
    exact lasting_visitOf hlasting (lasting_holding hlasting hloaded _) hvisit
  | startsSupplied hsupplies hvisit => exact lasting_visitOf hlasting h hvisit
  | forwards hdemand hengine hvisit =>
    exact lasting_visitOf hlasting (lasting_holding hlasting h _) hvisit

theorem Goes.lasting_replace {replaced : BridgeName} {next : Bridge.State} {start : Host}
    {notes : List (Observation Report)} {b : Bool}
    (hgoes : Goes setup host name operation (.replace replaced next start notes b))
    (h : P host.loader) : P (start.replacing replaced next).loader := by
  refine lasting_replacing hlasting ?_ _ _
  cases hgoes with
  | @lacks path args module loader missing hloads hload hmissing =>
    have hloaded : P (host.loaded path loader).loader := hlasting.load h hload
    exact lasting_lettingGo hlasting (lasting_holding hlasting hloaded (some module)) _
  | _ => exact h

/-- A property for which the disk does not matter is an invariant. -/
theorem lasting_invariant (hdisk : ∀ {loader : Loader}, P loader → ∀ disk, P { loader with disk }) :
    Invariant setup fun host => P host.loader where
  observes h _ := h
  registers h _ _ := h
  stores h disk := hdisk h disk
  calls hvisit h := lasting_directVisit hlasting h hvisit
  replaces hgoes h := hgoes.lasting_replace hlasting h
  enters hgoes h := hgoes.lasting_enter hlasting h
  leaves := by
    intro host name operation frame visit after hgoes h hfollows hafter run
    exact frame.lasting_leave hlasting hafter _

end

/-! ## Steps that leave a property alone -/

/-- What the step makes of the disk does not break the property. -/
def Step.Leaves (step : Step) (P : Loader → Prop) : Prop :=
  ∀ {loader : Loader}, P loader → P { loader with disk := step.storing loader.disk }

/-- The runner keeps the property in all steps that leave it alone. -/
def Guards (P : Loader → Prop) (run : Runner) : Prop :=
  ∀ step host, step.Leaves P → P host.loader → P ((run step).run host).2.loader

variable {run : Runner}

theorem Guards.all (hrun : Guards P run) {steps : List Step}
    (hsteps : ∀ step ∈ steps, step.Leaves P) (h : P host.loader) :
    P ((run.all steps).run host).2.loader := by
  induction steps generalizing host with
  | nil => exact h
  | cons step steps ih =>
    obtain ⟨hfirst, hothers⟩ := List.forall_mem_cons.mp hsteps
    exact ih hothers (hrun step host hfirst h)

theorem Visit.guarded_ending (hrun : Guards P run) {visit : Visit}
    (hmakes : visit.reaction.All fun step => step.Leaves P) (h : P visit.host.loader) :
    P (visit.ending run).loader := by
  unfold ending callBack
  cases hcallbacks : visit.callbacks run with
  | none => exact h
  | some steps => exact hrun.all (hmakes.callbacks hcallbacks) h

variable (hlasting : Loader.Lasting P) (hmakes : setup.Makes fun step => step.Leaves P)

include hlasting hmakes

/-- The step lemma: a step that leaves a property alone keeps it, if the steps inside it do. -/
theorem report_guarded (hrun : Guards P run) {step : Step} (hstep : step.Leaves P)
    (h : P host.loader) : P ((report setup run step).run host).2.loader := by
  have hbeginning : P host.beginning.loader := h
  show P ((perform setup run step).run host.beginning).2.loader
  cases htarget : step.target? with
  | some target =>
    obtain ⟨course, hgoes, hperform⟩ := exists_goes_of_target setup htarget host.beginning
    rw [hperform, loader_closing]
    have hstart : P (host.beginning.observe step.preface).loader := hbeginning
    cases course with
    | pass next =>
      cases hgoes with
      | unheard hdemand hengine => exact h
    | replace replaced next start notes b => exact hgoes.lasting_replace hlasting hstart
    | reach frame visit =>
      have hended := visit.guarded_ending hrun (hmakes.reach hgoes)
        (hgoes.lasting_enter hlasting hstart)
      exact frame.lasting_leave hlasting hended _
  | none =>
    cases hvisit : step.directVisit? setup host.beginning with
    | some visit =>
      obtain ⟨result, hperform⟩ := perform_of_directVisit setup hvisit run
      have hentered : P visit.host.loader := lasting_directVisit hlasting hbeginning hvisit
      rw [hperform]
      exact visit.guarded_ending hrun (hmakes.directVisit hvisit) hentered
    | none =>
      obtain ⟨result, hperform⟩ := perform_of_aside setup htarget hvisit
      rw [hperform]
      exact hstep hbeginning

/-- Callbacks keep a property, however deep they are performed. -/
theorem calledBack_guards (depth : Nat) : Guards P (calledBack setup depth) := by
  induction depth with
  | zero => exact fun step host hstep h => h
  | succ depth ih => exact fun step host hstep h => report_guarded hlasting hmakes ih hstep h

/-- Every run keeps a property that its steps leave alone. -/
theorem runSteps_guarded (depth : Nat) {steps : List Step}
    (hsteps : ∀ step ∈ steps, step.Leaves P) (h : P host.loader) :
    P ((runSteps setup depth steps).run host).2.loader := by
  rw [← all_calledBack_succ]
  exact (calledBack_guards hlasting hmakes (depth + 1)).all hsteps h

end Host
end FailOpen
