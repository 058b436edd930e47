import FailOpen.Proofs.Bridge.Coherence
import FailOpen.Proofs.Course.Moment

/-!
# Calls that outlive their engine

A demand takes the engine of the present state once, when it begins.  While the engine is called the
bridge can be given another state any number of times, from inside the call, and three rules apply.
The answer is the old engine's.  The state is that of the steps inside the call.  And the library of
the old engine stays mapped until the call is over, but no longer than that.

`call_isolated` states all three for a call that begins at any moment of any run.
-/

namespace FailOpen
namespace Host

/-- The states of the bridges that the last of some reports shows, or those before them. -/
def lastShown (start : BridgeName → Bridge.State) (reports : List Report) :
    BridgeName → Bridge.State :=
  reports.getLast?.elim start Report.state

variable {setup : Setup} {run : Runner}

/-! ## The state after a call -/

/-- Steps leave the bridges in the states that the last of their reports shows. -/
theorem bridge_reportAll (steps : List Step) (host : Host) :
    ((reportAll setup run steps).run host).2.bridge =
      lastShown host.bridge ((reportAll setup run steps).run host).1 := by
  induction steps generalizing host with
  | nil => rfl
  | cons step steps ih =>
    rw [reportAll_cons_run]
    change ((reportAll setup run steps).run ((report setup run step).run host).2).2.bridge = _
    rw [ih, lastShown, lastShown, List.getLast?_cons]
    have hfirst : ((report setup run step).run host).2.bridge =
        ((report setup run step).run host).1.state := by
      rw [report_state]
      funext name
      cases name <;> rfl
    cases ((reportAll setup run steps).run ((report setup run step).run host).2).1.getLast? with
    | none => exact hfirst
    | some last => rfl

theorem bridge_runSteps (depth : Nat) (steps : List Step) (host : Host) :
    ((runSteps setup depth steps).run host).2.bridge =
      lastShown host.bridge ((runSteps setup depth steps).run host).1 := by
  cases depth <;> exact bridge_reportAll steps host

theorem Visit.bridge_ending (depth : Nat) (visit : Visit) :
    (visit.ending (calledBack setup (depth + 1))).bridge =
      lastShown visit.host.bridge (visit.contact (calledBack setup (depth + 1))).inner := by
  unfold ending contact callBack
  rw [bridge_observe]
  cases visit.callbacks (calledBack setup (depth + 1)) with
  | none => rfl
  | some steps =>
    dsimp only
    rw [all_calledBack_succ]
    exact bridge_runSteps depth steps visit.host

/-! ## Demands that reach an engine -/

section

variable {step : Step} {name : BridgeName} {operation : Operation} {demand : Demand} {host : Host}

/-- A demand goes one of two ways: the engine of the bridge is inert and nobody is called, or its
code is reached. -/
theorem Goes.of_demand {course : Course} (hgoes : Goes setup host name operation course)
    (hdemand : operation.demand? = some demand) :
    (host.bridge name).engine = .inert ∧ course = .pass (host.observe (Host.unheard demand)) ∨
      ∃ visit, course = .reach (frameOf (host.bridge name).engine demand) visit ∧
        visitOf setup (host.holding (host.bridge name).engine.module?) (host.bridge name).engine
          demand = some visit := by
  cases hvisit : visitOf setup (host.holding (host.bridge name).engine.module?)
      (host.bridge name).engine demand with
  | none =>
    have hinert := (visitOf_eq_none_iff setup).mp hvisit
    exact .inl ⟨hinert, hgoes.unique (.unheard hdemand hinert)⟩
  | some visit => exact .inr ⟨visit, hgoes.unique (.forwards hdemand rfl hvisit), rfl⟩

theorem held_frameOf (engine : Engine) (demand : Demand) :
    (frameOf engine demand).held = held engine.module? := by
  cases demand <;> rfl

/-- A step with a demand to an engine that is not inert calls the code of that engine, and nobody
else.  The module of the engine is held for the call, the answer to the call is the result, and the
bridges are left as the call leaves them. -/
theorem exists_call_of_demand (htarget : step.target? = some (name, operation))
    (hdemand : operation.demand? = some demand) (hengine : (host.bridge name).engine ≠ .inert) :
    ∃ visit, Enters setup host step (held (host.bridge name).engine.module?) visit ∧
      partyOf (host.bridge name).engine = some visit.party ∧ visit.call = demand.call ∧
      ∀ run, Tracks setup run →
        let ran := (report setup run step).run host
        ran.1.contacts = [visit.contact run] ∧
          ran.1.result = step.shows (demand.yields (visit.answer run)) ∧
          ran.2.bridge = (visit.ending run).bridge ∧
          Truthful setup host.bridge (visit.contact run).inner := by
  obtain ⟨course, hgoes, hperforms⟩ := exists_goes_of_target setup htarget host.beginning
  have hbridge : (host.beginning.observe step.preface).bridge = host.bridge := by
    rw [bridge_observe, bridge_beginning]
  rcases hgoes.of_demand hdemand with ⟨hinert, -⟩ | ⟨visit, rfl, hvisit⟩
  · rw [hbridge] at hinert
    exact (hengine hinert).elim
  · rw [hbridge] at hgoes hvisit hperforms
    obtain ⟨hfrom, hparty, hcall⟩ := visitOf_from hvisit
    refine ⟨visit, held_frameOf _ demand ▸ .operation htarget hgoes, hparty, hcall,
      fun run hrun => ?_⟩
    obtain ⟨hcarries, htruthful, -⟩ := hgoes.fits hrun (quiet_preface step)
    rw [hbridge] at htruthful
    have hperform := hperforms run
    refine ⟨contacts_report hperform hcarries, ?_, ?_, htruthful⟩
    · rw [← Frame.yields_frameOf hdemand (host.bridge name).engine (visit.answer run)]
      exact congrArg Prod.fst hperform
    · change ((perform setup run step).run host.beginning).2.bridge = _
      rw [hperform, bridge_closing, Course.finish, Frame.bridge_leave_frameOf]

/-- A step with a demand holds the module of the present engine while the code is called. -/
theorem Enters.held_of_demand {inCall : Multiset Loader.Module} {visit : Visit}
    (henters : Enters setup host step inCall visit)
    (htarget : step.target? = some (name, operation)) (hdemand : operation.demand? = some demand)
    (hengine : (host.bridge name).engine ≠ .inert) :
    inCall = held (host.bridge name).engine.module? := by
  cases henters with
  | operation htarget' hgoes =>
    obtain ⟨rfl, rfl⟩ := Prod.mk.inj (Option.some.inj (htarget.symm.trans htarget'))
    have hbridge : (host.beginning.observe step.preface).bridge = host.bridge := by
      rw [bridge_observe, bridge_beginning]
    rcases hgoes.of_demand hdemand with ⟨hinert, -⟩ | ⟨visit, hreach, -⟩
    · rw [hbridge] at hinert
      exact (hengine hinert).elim
    · obtain ⟨rfl, rfl⟩ := Course.reach.inj hreach
      rw [hbridge, held_frameOf]
  | direct hvisit =>
    cases step with
    | bridge name' operation' => cases hvisit
    | exported function => cases hvisit
    | _ => cases htarget

end

/-! ## States at every moment -/

/-- The states of the bridges are coherent after any changes of a truthful run. -/
theorem coherent_stateAfter {start : BridgeName → Bridge.State} {reports : List Report}
    (htruthful : Truthful setup start reports) {name : BridgeName}
    (hstart : Coherent setup (start name)) :
    Coherent setup (stateAfter start (changesOf reports) name) := by
  unfold stateAfter
  cases hlatest : latest? (changesOf reports) name with
  | none => exact hstart
  | some change =>
    exact (lawful_of_mem_changesOf htruthful (mem_of_latest? hlatest).1).coherent

/-- Entering code leaves the bridges as they are. -/
theorem Enters.bridge_eq {host : Host} {step : Step} {inCall : Multiset Loader.Module}
    {visit : Visit} (henters : Enters setup host step inCall visit) :
    visit.host.bridge = host.bridge := by
  cases henters with
  | operation htarget hgoes =>
    have hbridge : (host.beginning.observe step.preface).bridge = host.bridge := by
      rw [bridge_observe, bridge_beginning]
    cases hgoes with
    | startsLoaded hloads hload hcomplete hvisit =>
      rw [(visitOf_from hvisit).1.bridge, bridge_holding, bridge_loaded, hbridge]
    | startsSupplied hsupplies hvisit => rw [(visitOf_from hvisit).1.bridge, hbridge]
    | forwards hdemand hengine hvisit =>
      rw [(visitOf_from hvisit).1.bridge, bridge_holding, hbridge]
  | direct hvisit => rw [(directVisit_from hvisit).bridge, bridge_beginning]

theorem Moment.coherent {depth : Nat} {start host : Host} {steps : List Step}
    {inCalls : Multiset Loader.Module} (hmoment : Moment setup depth start steps inCalls host)
    (hstart : ∀ name, Coherent setup (start.bridge name)) (name : BridgeName) :
    Coherent setup (host.bridge name) := by
  have hruns : ∀ (depth : Nat) (made : List Step) (start : Host),
      (∀ name, Coherent setup (start.bridge name)) →
        ∀ name, Coherent setup (((runSteps setup depth made).run start).2.bridge name) := by
    intro depth made start hstart name
    obtain ⟨-, hbridge, htruthful⟩ := @runSteps_tracks setup depth made start
    rw [hbridge]
    exact coherent_stateAfter htruthful (hstart name)
  -- entering code leaves the bridges alone, so only the steps between two entries count
  induction hmoment with
  | between depth start made rest => exact hruns depth made start hstart name
  | @inside depth start made step rest inCall visit inner host henters hinner ih =>
    refine ih fun name => ?_
    rw [henters.bridge_eq]
    exact hruns (depth + 1) made start hstart name

/-! ## Calls under way -/

/-- Let a run begin with unloaded bridges, and at any of its moments let a bridge that is initialized
be asked for a decision, or be handed a trace.  Whatever steps the engine makes before it answers,

* it is called once, and its own answer is the result;
* the bridges are left in the states that the last of these steps shows;
* every demand among these steps is answered by the engine of the state at that time;
* if the engine came out of a library, the library is mapped as long as the call lasts, and not
  after it unless somebody else holds it: a bridge, a call around this one, or the process since
  before the run. -/
theorem call_isolated {start : Host} (hunloaded : ∀ name, start.bridge name = .unloaded)
    {depth : Nat} {steps : List Step} {around : Multiset Loader.Module} {host : Host}
    (hmoment : Moment setup depth start steps around host) {step : Step} {name : BridgeName}
    {operation : Operation} {demand : Demand} (htarget : step.target? = some (name, operation))
    (hdemand : operation.demand? = some demand)
    (hinitialized : (host.bridge name).status = .initialized) (nesting : Nat) :
    let ran := (report setup (calledBack setup (nesting + 1)) step).run host
    ∃ party nested answer, partyOf (host.bridge name).engine = some party ∧
      ran.1.contacts = [⟨party, demand.call, nested, answer⟩] ∧
      ran.1.result = step.shows (demand.yields answer) ∧
      ran.2.bridge = lastShown host.bridge (nested.getD []) ∧
      (∀ occurrence ∈ timelineOf [] (nested.getD []),
        occurrence.report.state = stateAfter host.bridge occurrence.span ∧
        ∀ other operation' demand', occurrence.report.step.target? = some (other, operation') →
          operation'.demand? = some demand' →
            Answered (stateAfter host.bridge occurrence.past other).engine demand'
              occurrence.report) ∧
      ∀ module, (host.bridge name).engine.module? = some module →
        (∀ moment, During setup nesting host step moment →
          moment.loader.isMapped module.file) ∧
        (start.loader.isMapped module.file = false →
          (∀ other ∈ around, other.file ≠ module.file) →
          (∀ bridge, ∀ other ∈ heldBy (ran.2.bridge bridge), other.file ≠ module.file) →
            ran.2.loader.isMapped module.file = false) := by
  intro ran
  have hcoherent : ∀ name, Coherent setup (start.bridge name) := fun name => by
    rw [hunloaded name]
    exact coherent_unloaded
  have hengine := (hmoment.coherent hcoherent name).initialized_iff.mp hinitialized
  obtain ⟨visit, henters, hparty, hcall, hcalls⟩ := exists_call_of_demand htarget hdemand hengine
  obtain ⟨hcontacts, hresult, hbridge, htruthful⟩ :=
    hcalls (calledBack setup (nesting + 1)) (calledBack_tracks (nesting + 1))
  refine ⟨visit.party, (visit.callBack (calledBack setup (nesting + 1))).1,
    visit.answer (calledBack setup (nesting + 1)), hparty, ?_, hresult, ?_,
    fun occurrence hmem => ?_, fun module hmodule => ?_⟩
  · rw [← hcall]
    exact hcontacts
  · rw [← henters.bridge_eq]
    exact hbridge.trans (visit.bridge_ending nesting)
  · have hfaithful := htruthful occurrence hmem
    refine ⟨funext fun other => ?_, fun other operation' demand' htarget' hdemand' =>
      hfaithful.demands htarget' hdemand'⟩
    rw [hfaithful.states other, ← stateAfter_append]
    rfl
  · have haccounted : host.Accounted start.loader around :=
      (hmoment.accounted (accounted_of_unloaded hunloaded)).cast (add_zero around)
    refine ⟨fun moment hduring => hduring.isMapped haccounted fun henters' => ?_,
      fun hbase haround hbridges => ?_⟩
    · rw [henters'.held_of_demand htarget hdemand hengine, hmodule]
      exact Multiset.mem_singleton_self module
    · -- the call has given back what it held, so only the holders around it are left
      have hafter : ran.2.Accounted start.loader around :=
        report_keeps (calledBack_keeps setup (nesting + 1)) step haccounted
      exact hafter.isMapped_eq_false hbase haround hbridges

/-- A library that shuts its own bridge down when it is asked for a decision, asks again, and then
blocks. -/
def selfStopping : Setup where
  library _ := libraryOf
    { startup := fun _ _ => .answer 1
      block := fun _ _ =>
        .callBack (.ofSteps [.bridge .own .shutdown, .bridge .own (.decideBlock default)] 1)
      ingest := fun _ _ => .answer () }

/-- The process in which the library has been started. -/
def selfStoppingHost : Host :=
  ((runSteps selfStopping 1 [.bridge .own (.startFrom "/library" default)]).run oneLibrary).2

/-- Asking the library for a decision: the report, and the process afterwards. -/
def selfStoppingRun : Report × Host :=
  (report selfStopping (calledBack selfStopping 2) (.bridge .own (.decideBlock default))).run
    selfStoppingHost

/-- The library blocks although the bridge is unloaded by then, and it is unmapped only when it has
answered. -/
theorem selfStopping_blocks :
    selfStoppingRun.1.result = .flag true ∧ selfStoppingRun.2.bridge .own = .unloaded ∧
      (∀ moment, During selfStopping 1 selfStoppingHost (.bridge .own (.decideBlock default)) moment →
        moment.loader.isMapped "library") ∧
      selfStoppingRun.2.loader.isMapped "library" = false := by
  have hinitialized : (selfStoppingHost.bridge .own).status = .initialized := by decide +kernel
  have hmodule : (selfStoppingHost.bridge .own).engine.module? =
      some ⟨0, "/library", "library"⟩ := by decide +kernel
  have hanswers : selfStoppingRun.1.contacts.map Contact.answer = [.byte 1] := by decide +kernel
  have hunloaded : ∀ name, selfStoppingRun.2.bridge name = .unloaded := by
    have hown : selfStoppingRun.2.own = .unloaded := by decide +kernel
    have hshared : selfStoppingRun.2.shared = .unloaded := by decide +kernel
    intro name
    cases name
    · exact hown
    · exact hshared
  have hmoment : Moment selfStopping 1 oneLibrary
      [.bridge .own (.startFrom "/library" default)] 0 selfStoppingHost :=
    .between 1 oneLibrary [.bridge .own (.startFrom "/library" default)] []
  have htarget : (Step.bridge .own (.decideBlock default)).target? =
      some (.own, .decideBlock default) := rfl
  have hdemand : (Operation.decideBlock default).demand? = some (.block default) := rfl
  obtain ⟨party, nested, answer, -, hcontacts, hresult, -, -, hlibrary⟩ :=
    call_isolated (fun name => by cases name <;> rfl) hmoment htarget hdemand hinitialized 1
  obtain ⟨hduring, hafter⟩ := hlibrary _ hmodule
  refine ⟨?_, hunloaded .own, hduring, hafter rfl (by simp) fun bridge other hother => ?_⟩
  · change selfStoppingRun.1.contacts = _ at hcontacts
    rw [hcontacts] at hanswers
    obtain rfl : answer = .byte 1 := by simpa using hanswers
    exact hresult
  · change other ∈ heldBy (selfStoppingRun.2.bridge bridge) at hother
    rw [hunloaded bridge] at hother
    exact (Multiset.notMem_zero other hother).elim

end Host
end FailOpen
