import FailOpen.Proofs.Bridge.Handles
import FailOpen.Proofs.Course.Conduct

/-!
# A bridge that is alone in its process

If only one bridge of a process loads libraries, and nothing else holds them, then what the process
has mapped can be told from the state of that bridge.  `Alone` collects what holds in such a process,
whatever happens to the disk.  Its last field is about libraries with analyzers in them: an image in
which an analyzer has been started is the one that the engine of the bridge leads to.  In particular,
an image that is kept after a failed attempt has an empty slot.

* `Setup.Confined` says of all code that it loads nothing for another bridge.
* `Goes.alone_enter`, `Goes.idle_finish` and `report_alone` are the step lemmas.
* `runSteps_alone` says that a process in which a bridge is alone stays so.
-/

namespace FailOpen
namespace Host

open Analyzer (Request)

/-- All libraries are analyzers, and code that calls back loads nothing for another bridge. -/
structure Setup.Confined (setup : Setup) (name : BridgeName) : Prop where
  analyzers : ∀ file, ∃ analyzer, setup.program (.image file) = .analyzer analyzer
  makes : setup.Makes fun step => step.LoadsFor name

/-- The bridge is the only one that has loaded anything, and the only holder of libraries in the
process. -/
structure Alone (setup : Setup) (name : BridgeName) (host : Host) : Prop where
  accounted : ∃ disk, host.Accounted { disk } 0
  coherent : ∀ other, Coherent setup (host.bridge other)
  backed : AllBacked host
  others : ∀ other ≠ name, (host.bridge other).module = none
  idle : ∀ file, partyOf (host.bridge name).engine ≠ some (.code (.image file)) →
    (host.loader.statics file).slot = none

/-- The bridge is still alone when the runner has made a step that loads nothing for another one. -/
def LeavesAlone (setup : Setup) (name : BridgeName) (run : Runner) : Prop :=
  ∀ step host, step.LoadsFor name → Alone setup name host →
    Alone setup name ((run step).run host).2

variable {setup : Setup} {name other : BridgeName} {host : Host}

theorem LeavesAlone.all {run : Runner} (hrun : LeavesAlone setup name run) {steps : List Step}
    (hsteps : ∀ step ∈ steps, step.LoadsFor name) (h : Alone setup name host) :
    Alone setup name ((run.all steps).run host).2 := by
  induction steps generalizing host with
  | nil => exact h
  | cons step steps ih =>
    obtain ⟨hfirst, hothers⟩ := List.forall_mem_cons.mp hsteps
    exact ih hothers (hrun step host hfirst h)

/-! ## What the state of the bridge tells -/

theorem Alone.isMapped_iff (h : Alone setup name host) (file : String) :
    host.loader.isMapped file ↔ Pinned (.image file) (host.bridge name) := by
  obtain ⟨disk, haccounted⟩ := h.accounted
  exact haccounted.isMapped_iff_pinned h.coherent rfl fun other hother =>
    not_pinned_of_module (h.others other hother) file

/-- The engine of a bridge leads to a file only if the bridge has a module of it, with all entry
points. -/
theorem Alone.of_party_image (h : Alone setup name host) {file : String}
    (hparty : partyOf (host.bridge other).engine = some (.code (.image file))) :
    Pinned (.image file) (host.bridge other) ∧
      ∀ point : EntryPoint, (setup.library file).finds point.symbol = true := by
  obtain ⟨module, hengine, rfl⟩ := h.backed other file hparty
  -- only an initialized bridge has an engine, and the engine holds the module of the bridge
  have hinitialized : (host.bridge other).status = .initialized := by
    refine (h.coherent other).initialized_iff.mpr fun hinert => ?_
    rw [hinert] at hparty
    cases hparty
  cases hmodule : (host.bridge other).module with
  | none =>
    rw [(h.coherent other).unbound hinitialized hmodule] at hengine
    cases hengine
  | some module' =>
    obtain ⟨hbound, hexports⟩ := (h.coherent other).bound hinitialized hmodule
    rw [hbound] at hengine
    obtain rfl : module' = module := Option.some.inj hengine
    exact ⟨⟨module', hmodule, rfl⟩, hexports⟩

/-- The engines of other bridges lead to no file. -/
theorem Alone.party_ne_image (h : Alone setup name host) (hother : other ≠ name)
    (file : String) : partyOf (host.bridge other).engine ≠ some (.code (.image file)) := by
  intro hparty
  exact not_pinned_of_module (h.others other hother) file (h.of_party_image hparty).1

/-- An engine that leads to no file holds no module. -/
theorem Alone.module?_eq_none (h : Alone setup name host)
    (himage : ∀ file, partyOf (host.bridge other).engine ≠ some (.code (.image file))) :
    (host.bridge other).engine.module? = none := by
  by_cases hinitialized : (host.bridge other).status = .initialized
  · cases hmodule : (host.bridge other).module with
    | none => exact (h.coherent other).unbound hinitialized hmodule
    | some module =>
      have hbound := ((h.coherent other).bound hinitialized hmodule).1
      exact (himage module.file (by rw [hbound]; rfl)).elim
  · have hinert : (host.bridge other).engine = .inert := by
      by_contra hne
      exact hinitialized ((h.coherent other).initialized_iff.mpr hne)
    rw [hinert]
    rfl

/-! ## Entering code -/

/-- Only the bridges and the loader matter. -/
theorem Alone.of_eq {next : Host} (h : Alone setup name host)
    (hbridge : next.bridge = host.bridge) (hloader : next.loader = host.loader) :
    Alone setup name next where
  accounted := by
    unfold Accounted
    rw [hloader, show next.own = host.own from congrFun hbridge .own,
      show next.shared = host.shared from congrFun hbridge .shared]
    exact h.accounted
  coherent := by
    rw [hbridge]
    exact h.coherent
  backed := h.backed.of_bridge_eq hbridge
  others := by
    rw [hbridge]
    exact h.others
  idle := by
    rw [hbridge, hloader]
    exact h.idle

/-- Something else is stored on disk. -/
theorem Alone.withDisk (h : Alone setup name host) (disk : Loader.Disk) :
    Alone setup name (host.withDisk disk) where
  accounted := by
    obtain ⟨base, haccounted⟩ := h.accounted
    exact ⟨base, haccounted.withDisk disk⟩
  coherent := by
    rw [bridge_withDisk]
    exact h.coherent
  backed := h.backed.of_bridge_eq (bridge_withDisk host disk)
  others := by
    rw [bridge_withDisk]
    exact h.others
  idle := by
    rw [bridge_withDisk]
    exact h.idle

theorem loader_entryVisit_linked (unit : String) (call : Call) :
    (entryVisit setup host (.linked unit) call).host.loader = host.loader := by
  unfold entryVisit
  cases setup.program (.linked unit) <;> rfl

/-- Code that is not in a file works without the loader. -/
theorem loader_visitOf {engine : Engine} {demand : Demand} {visit : Visit}
    (hvisit : visitOf setup host engine demand = some visit)
    (himage : ∀ file, partyOf engine ≠ some (.code (.image file))) :
    visit.host.loader = host.loader := by
  cases engine with
  | inert => cases hvisit
  | custom custom =>
    obtain rfl := Option.some.inj hvisit
    rfl
  | native native =>
    obtain rfl := Option.some.inj hvisit
    obtain ⟨code, module⟩ := native
    cases code with
    | image file => exact (himage file rfl).elim
    | linked unit => exact loader_entryVisit_linked unit demand.call

/-- The code in a visit calls back. -/
def Visit.CallsBack (visit : Visit) : Prop :=
  ∃ routine, visit.reaction = .callBack routine

theorem Visit.callsBack_of_callbacks {run : Runner} {visit : Visit} {steps : List Step}
    (h : visit.callbacks run = some steps) : visit.CallsBack := by
  unfold callbacks at h
  cases hreaction : visit.reaction with
  | answer a =>
    rw [hreaction] at h
    cases h
  | callBack routine => exact ⟨routine, hreaction⟩

/-- Code in a file does not call back if all libraries are analyzers. -/
theorem Setup.Confined.party_of_callsBack (hconfined : setup.Confined name) {engine : Engine}
    {demand : Demand} {visit : Visit} (hvisit : visitOf setup host engine demand = some visit)
    (hcalls : visit.CallsBack) (file : String) : partyOf engine ≠ some (.code (.image file)) := by
  intro hparty
  obtain rfl := eq_entryVisit_of_partyOf hvisit hparty
  obtain ⟨analyzer, hprogram⟩ := hconfined.analyzers file
  obtain ⟨routine, hreaction⟩ := hcalls
  unfold entryVisit at hreaction
  rw [hprogram] at hreaction
  cases hreaction

/-- For code that calls back nothing has been loaded, so the call holds nothing. -/
theorem Goes.held_of_callsBack (hconfined : setup.Confined name) (h : Alone setup name host)
    {operation : Operation} {frame : Frame} {visit : Visit}
    (hgoes : Goes setup host other operation (.reach frame visit)) (hcalls : visit.CallsBack) :
    frame.held = 0 := by
  cases hgoes with
  | @startsLoaded path args module loader visit hloads hload hcomplete hvisit =>
    exact (hconfined.party_of_callsBack hvisit hcalls module.file rfl).elim
  | startsSupplied hsupplies hvisit =>
    rw [Frame.held, Operation.module?_of_supplies? hsupplies]
    rfl
  | forwards hdemand hengine hvisit =>
    subst hengine
    rw [held_frameOf, h.module?_eq_none (hconfined.party_of_callsBack hvisit hcalls)]
    rfl

/-- When code is entered and nothing is held by the call, the bridge is still alone. -/
theorem Goes.alone_enter (h : Alone setup name host) {operation : Operation} {frame : Frame}
    {visit : Visit} (hgoes : Goes setup host other operation (.reach frame visit))
    (hheld : frame.held = 0) : Alone setup name visit.host := by
  cases hgoes with
  | @startsLoaded path args module loader visit hloads hload hcomplete hvisit =>
    have hle : ({module} : Multiset Loader.Module) ≤ 0 := by
      rw [← hheld]
      exact Multiset.le_add_left _ _
    exact (Multiset.singleton_ne_zero module (Multiset.le_zero.mp hle)).elim
  | startsSupplied hsupplies hvisit =>
    exact h.of_eq (visitOf_from hvisit).1.bridge
      (loader_visitOf hvisit (party_of_supplies? hsupplies))
  | forwards hdemand hengine hvisit =>
    subst hengine
    rw [held_frameOf] at hheld
    cases hmodule : (host.bridge other).engine.module? with
    | some module => simp [hmodule, held] at hheld
    | none =>
      rw [hmodule] at hvisit
      refine h.of_eq (visitOf_from hvisit).1.bridge (loader_visitOf hvisit fun file himage => ?_)
      obtain ⟨module, hbacked, -⟩ := h.backed other file himage
      rw [hmodule] at hbacked
      cases hbacked

/-! ## Leaving code -/

section

variable {run : Runner} {operation : Operation} {course : Course}

/-- The bridge is alone when the steps that are made inside a visit are over. -/
theorem Visit.alone_ending
    (hrun : LeavesAlone setup name run) {visit : Visit}
    (hmakes : visit.reaction.All fun step => step.LoadsFor name)
    (h : Alone setup name visit.host) : Alone setup name (visit.ending run) := by
  unfold ending callBack
  cases hcallbacks : visit.callbacks run with
  | none => exact h.of_eq (bridge_observe _ _) rfl
  | some steps => exact (hrun.all (hmakes.callbacks hcallbacks) h).of_eq (bridge_observe _ _) rfl

/-- The process at the end of a visit: nothing was done inside it, or the bridge was alone all the
time. -/
theorem Goes.alone_ending (hconfined : setup.Confined name) (h : Alone setup name host)
    (hrun : LeavesAlone setup name run) {frame : Frame} {visit : Visit}
    (hgoes : Goes setup host other operation (.reach frame visit)) :
    (visit.callbacks run = none ∧ (visit.ending run).bridge = host.bridge) ∨
      Alone setup name (visit.ending run) := by
  cases hcallbacks : visit.callbacks run with
  | none =>
    left
    rw [visit.ending_of_callbacks hcallbacks, bridge_observe, hgoes.bridge_enter]
    exact ⟨rfl, rfl⟩
  | some steps =>
    right
    -- what calls back is no analyzer, so it is in no file and the call holds nothing
    have hheld := hgoes.held_of_callsBack hconfined h (visit.callsBack_of_callbacks hcallbacks)
    exact visit.alone_ending hrun (hconfined.makes.reach hgoes) (hgoes.alone_enter h hheld)

/-- An operation gives no other bridge a module. -/
theorem Goes.others_finish (hconfined : setup.Confined name) (h : Alone setup name host)
    (hrun : LeavesAlone setup name run)
    (hgoes : Goes setup host other operation course)
    (hspares : other = name ∨ operation.loads? = none) :
    ∀ another ≠ name, ((course.finish run).2.bridge another).module = none := by
  intro another hne
  have hanswered : ((course.answered run host).bridge another).module = none := by
    cases course with
    | reach frame visit =>
      rcases hgoes.alone_ending hconfined h hrun with ⟨-, hbridge⟩ | halone
      · rw [Course.answered, hbridge]
        exact h.others another hne
      · exact halone.others another hne
    | _ => exact h.others another hne
  by_cases hother : other = another
  · -- an operation of that bridge itself, which loads nothing
    subst hother
    have hnone : operation.loads? = none := hspares.resolve_left hne
    cases hgoes with
    | loadFails hloads hload => simp [hnone] at hloads
    | lacks hloads hload hmissing => simp [hnone] at hloads
    | startsLoaded hloads hload hcomplete hvisit => simp [hnone] at hloads
    | startsSupplied hsupplies hvisit =>
      rw [Course.finish, Frame.bridge_leave_attempt, if_pos rfl, attemptState_module]
    | unheard hdemand hengine =>
      rw [Course.finish, bridge_observe]
      exact hanswered
    | forwards hdemand hengine hvisit =>
      rw [Course.finish, Frame.bridge_leave_frameOf]
      exact hanswered
    | _ =>
      rw [Course.finish, bridge_observe, bridge_replacing, if_pos rfl]
      rfl
  · rw [hgoes.bridge_finish_of_ne hother]
    exact hanswered

/-- The slot of an image that is neither that of the engine nor called, when a visit is over. -/
theorem Goes.idle_ending (hconfined : setup.Confined name) (h : Alone setup name host)
    (hrun : LeavesAlone setup name run) {frame : Frame} {visit : Visit}
    (hgoes : Goes setup host other operation (.reach frame visit)) {file : String}
    (hvisited : partyOf (host.bridge name).engine ≠ some (.code (.image file)) →
      visit.host.statics (.image file) = host.statics (.image file))
    (hparty : partyOf ((visit.ending run).bridge name).engine ≠ some (.code (.image file))) :
    ((visit.ending run).statics (.image file)).slot = none := by
  rcases hgoes.alone_ending hconfined h hrun with ⟨hcallbacks, hbridge⟩ | halone
  · rw [hbridge] at hparty
    rw [visit.ending_of_callbacks hcallbacks, statics_observe, hvisited hparty]
    exact h.idle file hparty
  · exact halone.idle file hparty

/-- An image that a bridge keeps without its engine when a state has been replaced has an empty slot:
it is kept only if it lacks an entry point, and then it cannot have been that of the engine before. -/
theorem Goes.idle_replacing (h : Alone setup name host) {replaced : BridgeName}
    {next : Bridge.State} {start : Host} {notes : List (Observation Report)} {b : Bool}
    (hgoes : Goes setup host other operation (.replace replaced next start notes b)) {file : String}
    (hpinned : Pinned (.image file) ((start.replacing replaced next).bridge name))
    (hparty : partyOf ((start.replacing replaced next).bridge name).engine ≠
      some (.code (.image file))) : (host.statics (.image file)).slot = none := by
  refine h.idle file fun himage => ?_
  have hstart : start.bridge = host.bridge := by
    cases hgoes <;> simp
  rw [bridge_replacing, hstart] at hpinned hparty
  by_cases hreplaced : replaced = name
  · obtain ⟨-, hcomplete⟩ := h.of_party_image himage
    rw [if_pos hreplaced] at hpinned
    obtain ⟨module', hmodule, rfl⟩ := hpinned
    cases hgoes with
    | @lacks path args module loader missing hloads hload hmissing =>
      obtain rfl : module = module' := Option.some.inj hmodule
      obtain ⟨hlacks, -⟩ := Loader.firstUnresolved?_eq_some hmissing
      rw [hcomplete] at hlacks
      cases hlacks
    | _ => cases hmodule
  · rw [if_neg hreplaced] at hparty
    exact hparty himage

/-- An analyzer that has just refused to start has not filled its slot, and one that had been started
before would not have been asked. -/
theorem slot_of_refused {analyzer : Analyzer} {code : Code}
    (hprogram : setup.program code = .analyzer analyzer) (halive : host.Alive code)
    (args : Startup.RawArguments)
    (hrefused : ((entryVisit setup host code (.startup args)).answer run).startup ≠
      .returned true) :
    (((entryVisit setup host code (.startup args)).ending run).statics code).slot = none := by
  obtain ⟨hanswer, -, hstatics⟩ := entryVisit_startup hprogram halive args
  rw [hanswer.answer_eq run, (byte_answer _).1, ne_eq, Outcome.returned.injEq,
    Bool.not_eq_true] at hrefused
  rw [Visit.ending_of_callbacks (hanswer.callbacks_eq run), statics_observe, hstatics,
    ← Option.isNone_iff_eq_none, ← Option.isSome_eq_false_iff]
  exact (Analyzer.isSome_foldl_demanded _).trans hrefused

/-- An attempt leaves no started analyzer in the library that it has loaded, unless the bridge gets
the engine in it. -/
theorem Alone.idle_loaded (hconfined : setup.Confined name) (h : Alone setup name host)
    {path : String} {args : Startup.Arguments} {module : Loader.Module} {loader : Loader}
    {visit : Visit} (hload : host.loader.load path = .ok (module, loader))
    (hvisit : visitOf setup ((host.loaded path loader).holding (some module)) (engineIn module)
      (.startup args) = some visit)
    (hparty : partyOf (attemptState (visit.answer run).startup (engineIn module)
      (some module)).engine ≠ some (.code (.image module.file))) :
    ((visit.ending run).statics (.image module.file)).slot = none := by
  obtain ⟨analyzer, hprogram⟩ := hconfined.analyzers module.file
  obtain ⟨disk, haccounted⟩ := h.accounted
  have hentered : ((host.loaded path loader).holding (some module)).Alive (.image module.file) :=
    (haccounted.accounted_found hload).isMapped (Multiset.mem_add.mpr (.inl (by simp [held])))
  obtain rfl := eq_entryVisit_of_partyOf hvisit rfl
  refine slot_of_refused hprogram hentered args.raw fun haccepted => hparty ?_
  show partyOf (attemptState ((entryVisit setup _ (.image module.file)
    (.startup args.raw)).answer run).startup _ _).engine = _
  rw [haccepted]
  rfl

/-- An operation leaves no started analyzer behind in a file but in that of the engine. -/
theorem Goes.idle_finish (hconfined : setup.Confined name) (h : Alone setup name host)
    (hrun : LeavesAlone setup name run)
    (hgoes : Goes setup host other operation course)
    (hspares : other = name ∨ operation.loads? = none) {file : String}
    (halive : (course.finish run).2.Alive (.image file))
    (hpinned : Pinned (.image file) ((course.finish run).2.bridge name))
    (hparty : partyOf ((course.finish run).2.bridge name).engine ≠ some (.code (.image file))) :
    ((course.finish run).2.statics (.image file)).slot = none := by
  rw [hgoes.statics_finish halive]
  cases course with
  | pass next =>
    cases hgoes with
    | unheard hdemand hengine =>
      rw [Course.finish, bridge_observe] at hparty
      exact h.idle file hparty
  | replace replaced next start notes b =>
    rw [Course.finish, bridge_observe] at hpinned hparty
    exact hgoes.idle_replacing h hpinned hparty
  | reach frame visit =>
    have hreached := hgoes
    rw [Course.answered]
    cases hgoes with
    | @startsLoaded path args module loader visit hloads hload hcomplete hvisit =>
      obtain rfl : other = name := hspares.resolve_right (by simp [hloads])
      rw [Course.finish, Frame.bridge_leave_attempt, if_pos rfl] at hpinned hparty
      -- the file is the one that has been loaded, since the bridge keeps no other
      obtain ⟨module', hmodule, rfl⟩ := hpinned
      rw [attemptState_module] at hmodule
      obtain rfl : module = module' := Option.some.inj hmodule
      exact h.idle_loaded hconfined hload hvisit hparty
    | startsSupplied hsupplies hvisit =>
      by_cases hother : other = name
      · rw [Course.finish, Frame.bridge_leave_attempt, if_pos hother] at hpinned
        exact (not_pinned_of_module (attemptState_module _ _ _) file hpinned).elim
      · rw [Course.finish, Frame.bridge_leave_attempt, if_neg hother] at hparty
        exact hreached.idle_ending hconfined h hrun
          (fun _ => statics_visitOf_of_ne hvisit (party_of_supplies? hsupplies file)) hparty
    | @forwards engine demand visit hdemand hengine hvisit =>
      rw [Course.finish, Frame.bridge_leave_frameOf] at hparty
      subst hengine
      refine hreached.idle_ending hconfined h hrun (fun himage => ?_) hparty
      have hcalled : partyOf (host.bridge other).engine ≠ some (.code (.image file)) := by
        by_cases hother : other = name
        · rw [hother]
          exact himage
        · exact h.party_ne_image hother file
      rw [statics_visitOf_of_ne hvisit hcalled, statics_holding]

end

/-! ## Steps and runs -/

variable {run : Runner}

/-- Code that is called without a bridge is in no file, so its loader is not touched. -/
theorem loader_directVisit {step : Step} {visit : Visit}
    (hvisit : step.directVisit? setup host = some visit) : visit.host.loader = host.loader := by
  have hparty := party_of_directVisit? hvisit
  cases step with
  | engine engine request =>
    obtain ⟨demand, -, hvisit⟩ := Option.bind_eq_some_iff.mp hvisit
    obtain ⟨-, hengine, -⟩ := visitOf_from hvisit
    refine loader_visitOf hvisit fun file himage => hparty file ?_
    exact Option.some.inj (hengine.symm.trans himage)
  | entry engine call =>
    cases hengine : setup.engine engine with
    | native native =>
      obtain ⟨code, module⟩ := native
      obtain rfl : entryVisit setup host code call = visit := by
        simpa [Step.directVisit?, hengine] using hvisit
      cases code with
      | linked unit => exact loader_entryVisit_linked unit call
      | image file => exact (hparty file (entryVisit_party setup host _ call).1).elim
    | _ => simp [Step.directVisit?, hengine] at hvisit
  | _ => cases hvisit

/-- At the end of an operation that loads nothing for another bridge the bridge is still alone, if
the accounts are right. -/
theorem Goes.alone_finish (hconfined : setup.Confined name) (hrun : LeavesAlone setup name run)
    {operation : Operation} {course : Course} (h : Alone setup name host)
    (hgoes : Goes setup host other operation course)
    (hspares : other = name ∨ operation.loads? = none) {disk : Loader.Disk}
    (haccounted : (course.finish run).2.Accounted { disk } 0)
    (hcoherent : ∀ other, Coherent setup ((course.finish run).2.bridge other))
    (hbacked : AllBacked (course.finish run).2) : Alone setup name (course.finish run).2 := by
  have hothers := hgoes.others_finish hconfined h hrun hspares
  refine ⟨⟨disk, haccounted⟩, hcoherent, hbacked, hothers, fun file hparty => ?_⟩
  cases hmapped : (course.finish run).2.loader.isMapped file with
  | false => rw [Loader.statics_of_not_isMapped hmapped]
  | true =>
    have hpinned : Pinned (.image file) ((course.finish run).2.bridge name) :=
      (haccounted.isMapped_iff_pinned hcoherent rfl fun other hother =>
        not_pinned_of_module (hothers other hother) file).mp hmapped
    exact hgoes.idle_finish hconfined h hrun hspares hmapped hpinned hparty

/-- The step lemma: a bridge stays alone during a step that loads nothing for another one. -/
theorem report_alone (hconfined : setup.Confined name) {depth : Nat}
    (hrun : LeavesAlone setup name (calledBack setup depth))
    {step : Step} (hstep : step.LoadsFor name) (h : Alone setup name host) :
    Alone setup name ((report setup (calledBack setup depth) step).run host).2 := by
  have hbeginning : Alone setup name host.beginning := h.of_eq (bridge_beginning host) rfl
  have hperformed :
      Alone setup name ((perform setup (calledBack setup depth) step).run host.beginning).2 := by
    cases htarget : step.target? with
    | some target =>
      obtain ⟨other, operation⟩ := target
      obtain ⟨course, hgoes, hperform⟩ := exists_goes_of_target setup htarget host.beginning
      have hstart : Alone setup name (host.beginning.observe step.preface) :=
        hbeginning.of_eq (bridge_observe _ _) rfl
      have hbridge : ((runSteps setup depth [step]).run host).2.bridge =
          (course.finish (calledBack setup depth)).2.bridge := by
        rw [runSteps_eq_reportAll, reportAll_cons_run]
        show ({ ((perform setup _ step).run host.beginning).2 with output := _ } : Host).bridge = _
        rw [bridge_withOutput, hperform, bridge_closing]
      have hcoherent := (Moment.last depth [step] host).coherent h.coherent
      have hbacked : AllBacked ((runSteps setup depth [step]).run host).2 :=
        allBacked_invariant.holds_runSteps depth [step] h.backed
      obtain ⟨disk, haccounted⟩ := hstart.accounted
      rw [hperform]
      refine Alone.of_eq ?_ (bridge_closing setup step _) (loader_closing setup step _)
      refine hgoes.alone_finish hconfined hrun hstart (hstep htarget)
        (Course.accounted_finish (calledBack_keeps setup depth) (hgoes.accounted haccounted)) ?_ ?_
      · rw [← hbridge]
        exact hcoherent
      · exact hbacked.of_bridge_eq hbridge.symm
    | none =>
      cases hvisit : step.directVisit? setup host.beginning with
      | some visit =>
        obtain ⟨result, hperform⟩ := perform_of_directVisit setup hvisit (calledBack setup depth)
        have hentered : Alone setup name visit.host :=
          hbeginning.of_eq (directVisit_from hvisit).bridge (loader_directVisit hvisit)
        rw [hperform]
        exact visit.alone_ending hrun (hconfined.makes.directVisit hvisit) hentered
      | none =>
        obtain ⟨result, hperform⟩ := perform_of_aside setup htarget hvisit
        rw [hperform]
        exact hbeginning.withDisk _
  exact hperformed.of_eq (bridge_withOutput _ _) rfl

/-- Callbacks leave a bridge alone, however deep they are performed. -/
theorem calledBack_alone (hconfined : setup.Confined name) (depth : Nat) :
    LeavesAlone setup name (calledBack setup depth) := by
  induction depth with
  | zero => exact fun step host hstep h => h
  | succ depth ih => exact fun step host hstep h => report_alone hconfined ih hstep h

/-- A bridge that is alone in its process stays alone while nothing is loaded for another one. -/
theorem runSteps_alone (hconfined : setup.Confined name) (depth : Nat) (steps : List Step)
    (hsteps : ∀ step ∈ steps, step.LoadsFor name) (h : Alone setup name host) :
    Alone setup name ((runSteps setup depth steps).run host).2 := by
  rw [← all_calledBack_succ]
  exact (calledBack_alone hconfined (depth + 1)).all hsteps h

/-- When a step has reached code and its call holds nothing, the bridge is still alone. -/
theorem Enters.alone (hconfined : setup.Confined name) (h : Alone setup name host) {step : Step}
    {held : Multiset Loader.Module} {visit : Visit} (henters : Enters setup host step held visit)
    (hheld : held = 0) :
    Alone setup name visit.host ∧ visit.reaction.All fun step => step.LoadsFor name := by
  have hbeginning : Alone setup name host.beginning := h.of_eq (bridge_beginning host) rfl
  cases henters with
  | operation htarget hgoes =>
    have hstart : Alone setup name (host.beginning.observe step.preface) :=
      hbeginning.of_eq (bridge_observe _ _) rfl
    exact ⟨hgoes.alone_enter hstart hheld, hconfined.makes.reach hgoes⟩
  | direct hvisit =>
    exact ⟨hbeginning.of_eq (directVisit_from hvisit).bridge (loader_directVisit hvisit),
      hconfined.makes.directVisit hvisit⟩

/-- At every moment of a run that loads nothing for another bridge, if no call under way holds a
library, the bridge is alone. -/
theorem Moment.alone (hconfined : setup.Confined name) {depth : Nat} {start : Host}
    {steps : List Step} {inCalls : Multiset Loader.Module}
    (hmoment : Moment setup depth start steps inCalls host)
    (hsteps : ∀ step ∈ steps, step.LoadsFor name) (hstart : Alone setup name start)
    (hinCalls : inCalls = 0) : Alone setup name host := by
  induction hmoment with
  | between depth start made rest =>
    exact runSteps_alone hconfined depth made
      (fun step hmem => hsteps step (List.mem_append_left rest hmem)) hstart
  | @inside depth start made step rest held visit inner host henters hinner ih =>
    have hheld : held = 0 := Multiset.le_zero.mp (hinCalls ▸ Multiset.le_add_right held inner)
    have hnothing : inner = 0 := Multiset.le_zero.mp (hinCalls ▸ Multiset.le_add_left inner held)
    have hmade := runSteps_alone hconfined (depth + 1) made
      (fun step hmem => hsteps step (List.mem_append_left _ hmem)) hstart
    obtain ⟨hentered, hmakes⟩ := henters.alone hconfined hmade hheld
    refine ih (fun nested hmem => ?_) hentered hnothing
    cases hcallbacks : visit.callbacks (calledBack setup (depth + 1)) with
    | none => simp [hcallbacks] at hmem
    | some steps =>
      rw [hcallbacks] at hmem
      exact hmakes.callbacks hcallbacks nested hmem

end Host
end FailOpen
