import FailOpen.Proofs.Timeline.Basic

/-!
# What code does when it calls back

Conditions on code that are met whatever the process is like in which it runs.  A routine is a tree:
it goes on as the results of its steps say, so what it may do is what stands anywhere in this tree.

* `Routine.All` says that every step in a routine has a property, and `Setup.Makes` that all steps of
  all code have it.
* `Step.LoadsFor` and `Step.Within` are such properties: they say for which bridges a step loads
  libraries, and what else it may turn to.
* `Routine.Discreet` is about a bridge that may be disabled or unloaded.  Some steps tell which of the
  two it is, until the bridge changes for the first time.  Discreet code does not act upon that.
-/

namespace FailOpen
namespace Host

/-! ## Routines -/

/-- Every step that may be made in the routine has the property. -/
def Routine.All {α : Type} (p : Step → Prop) : Routine α → Prop
  | .answer _ => True
  | .step first next => p first ∧ ∀ result?, (next result?).All p

/-- Every step that may be made in the reaction has the property. -/
def Reaction.All {α : Type} (p : Step → Prop) : Reaction α → Prop
  | .answer _ => True
  | .callBack routine => routine.All p

theorem Routine.All.steps {α : Type} {p : Step → Prop} {routine : Routine α} (h : routine.All p)
    (run : Runner) (host : Host) : ∀ step ∈ routine.steps run host, p step := by
  induction routine generalizing host with
  | answer a => exact List.forall_mem_nil _
  | step first next ih => exact List.forall_mem_cons.mpr ⟨h.1, ih _ (h.2 _) _⟩

theorem Reaction.All.callbacks {α : Type} {p : Step → Prop} {reaction : Reaction α}
    (h : reaction.All p) {run : Runner} {host : Host} {steps : List Step}
    (hcallbacks : reaction.callbacks run host = some steps) : ∀ step ∈ steps, p step := by
  cases reaction with
  | answer a => cases hcallbacks
  | callBack routine =>
    obtain rfl := Option.some.inj hcallbacks
    exact Routine.All.steps h run host

theorem Routine.All.imp {α : Type} {p q : Step → Prop} (hpq : ∀ step, p step → q step)
    {routine : Routine α} (h : routine.All p) : routine.All q := by
  induction routine with
  | answer a => trivial
  | step first next ih => exact ⟨hpq first h.1, fun result? => ih result? (h.2 result?)⟩

theorem Reaction.All.imp {α : Type} {p q : Step → Prop} (hpq : ∀ step, p step → q step)
    {reaction : Reaction α} (h : reaction.All p) : reaction.All q := by
  cases reaction with
  | answer a => trivial
  | callBack routine => exact Routine.All.imp hpq h

/-- All steps that code may make when it calls back have the property. -/
structure Setup.Makes (setup : Setup) (p : Step → Prop) : Prop where
  custom : ∀ engine before demand, ((setup.custom engine).reaction before demand).All p
  coded : ∀ {code entryCode}, setup.program code = .coded entryCode →
    ∀ before call, (entryCode.reaction before call).All p

theorem Setup.Makes.imp {setup : Setup} {p q : Step → Prop} (h : setup.Makes p)
    (hpq : ∀ step, p step → q step) : setup.Makes q where
  custom engine before demand := (h.custom engine before demand).imp hpq
  coded hprogram before call := (h.coded hprogram before call).imp hpq

section

variable {setup : Setup} {p : Step → Prop} {host : Host}

theorem Setup.Makes.entryVisit (h : setup.Makes p) (code : Code) (call : Call) :
    (Host.entryVisit setup host code call).reaction.All p := by
  unfold Host.entryVisit
  cases hprogram : setup.program code with
  | coded entryCode => exact h.coded hprogram _ call
  | analyzer analyzer => trivial

theorem Setup.Makes.visitOf (h : setup.Makes p) {engine : Engine} {demand : Demand} {visit : Visit}
    (hvisit : Host.visitOf setup host engine demand = some visit) : visit.reaction.All p := by
  cases engine with
  | inert => cases hvisit
  | custom name =>
    obtain rfl := Option.some.inj hvisit
    exact h.custom name _ demand
  | native native =>
    obtain rfl := Option.some.inj hvisit
    exact h.entryVisit native.code demand.call

theorem Setup.Makes.directVisit (h : setup.Makes p) {step : Step} {visit : Visit}
    (hvisit : step.directVisit? setup host = some visit) : visit.reaction.All p := by
  rcases visit_of_directVisit? setup hvisit with ⟨engine, demand, hvisit⟩ | ⟨code, call, rfl⟩
  · exact h.visitOf hvisit
  · exact h.entryVisit code call

theorem Setup.Makes.reach (h : setup.Makes p) {name : BridgeName} {operation : Operation}
    {frame : Frame} {visit : Visit} (hgoes : Goes setup host name operation (.reach frame visit)) :
    visit.reaction.All p := by
  cases hgoes with
  | startsLoaded hloads hload hcomplete hvisit => exact h.visitOf hvisit
  | startsSupplied hsupplies hvisit => exact h.visitOf hvisit
  | forwards hdemand hengine hvisit => exact h.visitOf hvisit

end

/-! ## Steps -/

/-- The step is an operation of the bridge. -/
def Step.WorksOn (step : Step) (name : BridgeName) : Prop :=
  ∃ operation, step.target? = some (name, operation)

/-- The step loads no library for any other bridge. -/
def Step.LoadsFor (step : Step) (name : BridgeName) : Prop :=
  ∀ {other operation}, step.target? = some (other, operation) →
    other = name ∨ operation.loads? = none

/-- The step works on the bridge, or shows it. -/
def Step.Regards (step : Step) (name : BridgeName) : Prop :=
  step.WorksOn name ∨ step = .display name

/-- What code may turn to when it calls back, besides the bridge in question. -/
structure Scope where
  /-- Other bridges. -/
  bridges : BridgeName → Prop
  /-- What engines may be asked on other ways than through the bridge, even before it has changed. -/
  calls : Call → Prop

/-- The step loads no library for any other bridge, leaves the disk as it is, and turns to no bridge
that is out of scope. -/
structure Step.Within (step : Step) (scope : Scope) (name : BridgeName) : Prop where
  loads : step.LoadsFor name
  stores : ∀ disk, step.storing disk = disk
  regards : ∀ {other}, step.Regards other → other = name ∨ scope.bridges other

theorem Step.WorksOn.within {step : Step} {name : BridgeName} (h : step.WorksOn name)
    (scope : Scope) : step.Within scope name := by
  obtain ⟨operation, htarget⟩ := h
  refine ⟨fun hother => .inl ?_, fun disk => ?_, fun hother => .inl ?_⟩
  · exact congrArg Prod.fst (Option.some.inj (hother.symm.trans htarget))
  · cases step <;> first | rfl | cases htarget
  · rcases hother with ⟨operation', hother⟩ | rfl
    · exact congrArg Prod.fst (Option.some.inj (hother.symm.trans htarget))
    · cases htarget

/-! ## Discreet code -/

/-- The call by which a step asks an engine on another way than through the bridge: without any
bridge, or through another one. -/
def Step.aside? (name : BridgeName) : Step → Option Call
  | .engine _ request => request.demand?.map Demand.call
  | .entry _ call => some call
  | step =>
      match step.target? with
      | some (other, operation) =>
          if other = name then none else operation.demand?.map Demand.call
      | none => none

/-- A call that may be made before the bridge has changed: every startup, since an attempt calls it
before it changes the bridge, and what is in scope. -/
def Scope.Early (scope : Scope) (call : Call) : Prop :=
  call.entryPoint = .startup ∨ scope.calls call

/-- The step may be made before the bridge has changed. -/
def Step.Early (step : Step) (scope : Scope) (name : BridgeName) : Prop :=
  ∀ call, step.aside? name = some call → scope.Early call

theorem Step.WorksOn.early {step : Step} {name : BridgeName} (h : step.WorksOn name)
    (scope : Scope) : step.Early scope name := by
  obtain ⟨operation, htarget⟩ := h
  intro call hcall
  cases step with
  | bridge other operation' =>
    obtain ⟨rfl, -⟩ := Prod.mk.inj (Option.some.inj htarget)
    simp [Step.aside?, Step.target?] at hcall
  | exported function =>
    obtain ⟨rfl, -⟩ := Prod.mk.inj (Option.some.inj htarget)
    simp [Step.aside?, Step.target?] at hcall
  | _ => cases htarget

/-- Two results of a step that may tell a disabled bridge from an unloaded one: what a shutdown
answers, how the bridge is shown, and whether a library is mapped. -/
inductive Step.Tells (name : BridgeName) : Step → Result → Result → Prop
  | shutdown (b b' : Bool) : Tells name (.bridge name .shutdown) (.flag b) (.flag b')
  | display (s s' : String) : Tells name (.display name) (.text s) (.text s')
  | isMapped (file : String) (b b' : Bool) : Tells name (.isMapped file) (.flag b) (.flag b')

/-- The step replaces the state of the bridge. -/
def Step.Changes (step : Step) (name : BridgeName) : Prop :=
  ∃ operation, step.target? = some (name, operation) ∧ operation.replaces

/-- As long as the bridge has not changed, the routine does not act upon what tells a disabled bridge
from an unloaded one, and asks no engine aside that is not in scope. -/
def Routine.Discreet {α : Type} (scope : Scope) (name : BridgeName) : Routine α → Prop
  | .answer _ => True
  | .step first next =>
      first.Early scope name ∧
        (∀ result result', first.Tells name result result' →
          next (some result) = next (some result')) ∧
        (next none).Discreet scope name ∧
        (¬ first.Changes name → ∀ result, (next (some result)).Discreet scope name)

def Reaction.Discreet {α : Type} (scope : Scope) (name : BridgeName) : Reaction α → Prop
  | .answer _ => True
  | .callBack routine => routine.Discreet scope name

/-- All code is discreet in the calls that may be made before the bridge has changed. -/
structure Setup.Discreet (setup : Setup) (scope : Scope) (name : BridgeName) : Prop where
  custom : ∀ engine before demand, scope.Early demand.call →
    ((setup.custom engine).reaction before demand).Discreet scope name
  coded : ∀ {code entryCode}, setup.program code = .coded entryCode →
    ∀ before call, scope.Early call → (entryCode.reaction before call).Discreet scope name

section

variable {setup : Setup} {scope : Scope} {name : BridgeName} {host : Host}

theorem Setup.Discreet.entryVisit (h : setup.Discreet scope name) {code : Code} {call : Call}
    (hearly : scope.Early call) :
    (Host.entryVisit setup host code call).reaction.Discreet scope name := by
  unfold Host.entryVisit
  cases hprogram : setup.program code with
  | coded entryCode => exact h.coded hprogram _ call hearly
  | analyzer analyzer => trivial

theorem Setup.Discreet.visitOf (h : setup.Discreet scope name) {engine : Engine} {demand : Demand}
    {visit : Visit} (hvisit : Host.visitOf setup host engine demand = some visit)
    (hearly : scope.Early demand.call) : visit.reaction.Discreet scope name := by
  cases engine with
  | inert => cases hvisit
  | custom engine =>
    obtain rfl := Option.some.inj hvisit
    exact h.custom engine _ demand hearly
  | native native =>
    obtain rfl := Option.some.inj hvisit
    exact h.entryVisit hearly

end

end Host
end FailOpen
