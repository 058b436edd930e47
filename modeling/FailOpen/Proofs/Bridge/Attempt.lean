import FailOpen.Proofs.Timeline.Tracks

/-!
# What decides an attempt

An attempt is decided by two things: by what it has prepared before it reaches any code, and by the
answer to the startup that it then makes.  Nothing that happens inside that startup has a part in it.

* `Operation.prepared` is what an attempt has prepared.  It depends on the loader, on the supplied
  engines and on the names that the libraries export, but not on any code.
* `Settles` says how an attempt ends, given its preparation and how the startup has ended.
* `attempt_settles` states that every attempt ends in this way.
-/

namespace FailOpen
namespace Host

/-- What an attempt has prepared before it reaches any code: the state to be published, if it has
failed by then, or else the engine to be started, with the module that it was found in. -/
def Operation.prepared (setup : Setup) (loader : Loader) (operation : Operation) :
    Except Bridge.State (Engine × Option Loader.Module) :=
  match operation.loads? with
  | some (path, _) =>
      match loader.load path with
      | .error _ => .error (.disabled .loadFailed none)
      | .ok (module, loader) =>
          match (loader.retain module).unresolved? (setup.library module.file).finds module with
          | some missing =>
              .error (.disabled (.missingEntryPoint missing.entryPoint.symbol) (some module))
          | none => .ok (engineIn module, some module)
  | none =>
      match operation.supplies? setup with
      | some (.custom name, _) => .ok (.custom name, none)
      | some (.native native, _) => .ok (.native native, none)
      | _ => .error (.disabled .startupRejected none)

/-- How a startup ended that was made by a contact. -/
def Contact.outcome (contact : Contact) : Outcome Bool :=
  contact.answer.startup

/-- How an attempt ends, given what it has prepared and how the startups ended that it has made: with
a truth value, and with the state that it publishes. -/
inductive Settles : Except Bridge.State (Engine × Option Loader.Module) → List (Outcome Bool) →
    Bool → Bridge.State → Prop
  | failed {next : Bridge.State} : Settles (.error next) [] false next
  | answered {engine : Engine} {module : Option Loader.Module} {outcome : Outcome Bool} :
      Settles (.ok (engine, module)) [outcome] (outcome = .returned true)
        (attemptState outcome engine module)

theorem Settles.unique {prepared : Except Bridge.State (Engine × Option Loader.Module)}
    {outcomes : List (Outcome Bool)} {b b' : Bool} {state state' : Bridge.State}
    (h : Settles prepared outcomes b state) (h' : Settles prepared outcomes b' state') :
    b = b' ∧ state = state' := by
  cases h with
  | failed =>
    cases h'
    exact ⟨rfl, rfl⟩
  | answered =>
    cases h'
    exact ⟨rfl, rfl⟩

/-- Two processes with the same engines and the same names in their libraries.  The code behind them
may differ in everything. -/
structure Setup.Agrees (setup other : Setup) : Prop where
  supplied : ∀ name, other.supplied name = setup.supplied name
  finds : ∀ file, (other.library file).finds = (setup.library file).finds

theorem Setup.Agrees.engine_eq {setup other : Setup} (h : setup.Agrees other) (name : String) :
    other.engine name = setup.engine name :=
  congrArg SuppliedEngine.engine (h.supplied name)

theorem Setup.Agrees.supplies?_eq {setup other : Setup} (h : setup.Agrees other)
    (operation : Operation) : operation.supplies? other = operation.supplies? setup := by
  cases operation with
  | startSupplied name args => simp only [Operation.supplies?, h.engine_eq]
  | _ => rfl

/-- What an attempt prepares does not depend on any code. -/
theorem Setup.Agrees.prepared_eq {setup other : Setup} (h : setup.Agrees other) (loader : Loader)
    (operation : Operation) :
    operation.prepared other loader = operation.prepared setup loader := by
  unfold Operation.prepared
  simp only [h.finds, h.supplies?_eq]

variable {setup : Setup} {run : Runner}

theorem Operation.loads?_of_supplies? {operation : Operation}
    {supplies : Engine × Startup.Arguments} (h : operation.supplies? setup = some supplies) :
    operation.loads? = none := by
  cases operation <;> first | rfl | cases h

/-- The course of an attempt ends as its preparation and its startup decide. -/
theorem Goes.settles {host : Host} {name : BridgeName} {operation : Operation} {course : Course}
    (hgoes : Goes setup host name operation course) (hattempt : operation.isAttempt) :
    Settles (operation.prepared setup host.loader)
      ((course.contact? run).toList.map Contact.outcome) (course.finish run).1
      ((course.finish run).2.bridge name) := by
  cases hgoes with
  | loadFails hloads hload =>
    have hprepared : operation.prepared setup host.loader =
        .error (.disabled .loadFailed none) := by
      simp only [Operation.prepared, hloads, hload]
    rw [hprepared, Course.finish, bridge_observe, bridge_replacing, if_pos rfl]
    exact .failed
  | @lacks path args module loader missing hloads hload hmissing =>
    have hprepared : operation.prepared setup host.loader =
        .error (.disabled (.missingEntryPoint missing.entryPoint.symbol) (some module)) := by
      change (loader.retain module).unresolved? _ module = some missing at hmissing
      simp only [Operation.prepared, hloads, hload, hmissing]
    rw [hprepared, Course.finish, bridge_observe, bridge_replacing, if_pos rfl]
    exact .failed
  | @startsLoaded path args module loader visit hloads hload hcomplete hvisit =>
    have hprepared : operation.prepared setup host.loader =
        .ok (engineIn module, some module) := by
      change (loader.retain module).unresolved? _ module = none at hcomplete
      simp only [Operation.prepared, hloads, hload, hcomplete]
    rw [hprepared, Course.finish, Frame.bridge_leave_attempt, if_pos rfl]
    exact .answered
  | refuses hsupplies =>
    have hprepared : operation.prepared setup host.loader =
        .error (.disabled .startupRejected none) := by
      simp only [Operation.prepared, Operation.loads?_of_supplies? hsupplies, hsupplies]
    rw [hprepared, Course.finish, bridge_observe, bridge_replacing, if_pos rfl]
    exact .failed
  | @startsSupplied engine args visit hsupplies hvisit =>
    have hprepared : operation.prepared setup host.loader = .ok (engine, none) := by
      cases engine with
      | inert => cases hvisit
      | _ => simp only [Operation.prepared, Operation.loads?_of_supplies? hsupplies, hsupplies]
    rw [hprepared, Course.finish, Frame.bridge_leave_attempt, if_pos rfl]
    exact .answered
  | disables hdisable =>
    subst hdisable
    cases hattempt
  | unheard hdemand hengine =>
    rw [Operation.demand?_of_isAttempt hattempt] at hdemand
    cases hdemand
  | forwards hdemand hengine hvisit =>
    rw [Operation.demand?_of_isAttempt hattempt] at hdemand
    cases hdemand
  | shutsDown hshutdown =>
    subst hshutdown
    cases hattempt

/-- Every attempt ends as its preparation and its startup decide. -/
theorem attempt_settles (hrun : Tracks setup run) {step : Step} {name : BridgeName}
    {operation : Operation} (htarget : step.target? = some (name, operation))
    (hattempt : operation.isAttempt) (host : Host) :
    let report := ((report setup run step).run host).1
    ∃ b, Settles (operation.prepared setup host.loader) (report.contacts.map Contact.outcome) b
        (report.state name) ∧ report.result = step.shows b := by
  obtain ⟨course, hgoes, hperforms⟩ := exists_goes_of_target setup htarget host.beginning
  obtain ⟨hcarries, -, -⟩ := hgoes.fits hrun (quiet_preface step)
  have hperform := hperforms run
  have hsettles := @Goes.settles _ run _ _ _ _ hgoes hattempt
  refine ⟨(course.finish run).1, ?_, congrArg Prod.fst hperform⟩
  rw [report_state, contacts_report hperform hcarries, hperform, bridge_closing]
  exact hsettles

end Host
end FailOpen
