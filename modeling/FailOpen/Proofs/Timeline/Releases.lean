import FailOpen.Proofs.Timeline.Runs
import Mathlib.Data.List.Range

/-!
# What is loaded and what is let go

A module enters the state of a bridge when an attempt publishes it, and leaves it when the next
change of that bridge replaces the state.  This module keeps the books of both, for whole runs with
all steps made inside calls.

* `releasedIn_add_modulesIn` is the balance of any tree of reports: what has been let go and what is
  there in the end are what was there before and what has been published.
* `loads_published` says that a run publishes exactly the modules that it loads, each of them once.
* `released_or_present` puts both together: every load is let go once, or it is there in the end.
-/

namespace FailOpen
namespace Host

/-! ## The balance of a tree of reports -/

/-- The modules that the bridges hold in some states. -/
def modulesIn (states : BridgeName → Bridge.State) : Multiset Loader.Module :=
  held (states .own).module + held (states .shared).module

/-- The modules that some changes have put into a bridge. -/
def publishedIn (changes : List Change) : Multiset Loader.Module :=
  (changes.filterMap fun change => change.state.module : List Loader.Module)

/-- The module that a step has let go: the one in the state that it has replaced. -/
def Occurrence.released? (start : BridgeName → Bridge.State) (occurrence : Occurrence) :
    Option Loader.Module :=
  occurrence.report.change?.bind fun change =>
    (stateAfter start (occurrence.past ++ changesIn occurrence.report.output) change.bridge).module

/-- The modules that the steps of a timeline have let go. -/
def releasedIn (start : BridgeName → Bridge.State) (timeline : List Occurrence) :
    Multiset Loader.Module :=
  (timeline.filterMap (Occurrence.released? start) : List Loader.Module)

theorem coe_filterMap_cons {α : Type} (f : α → Option Loader.Module) (a : α) (as : List α) :
    (((a :: as).filterMap f : List Loader.Module) : Multiset Loader.Module) =
      held (f a) + (as.filterMap f : List Loader.Module) := by
  cases h : f a with
  | none => simp [h, held]
  | some module => simp [h, held]

theorem publishedIn_append (first second : List Change) :
    publishedIn (first ++ second) = publishedIn first + publishedIn second := by
  unfold publishedIn
  rw [List.filterMap_append, ← Multiset.coe_add]

theorem publishedIn_singleton (change : Change) :
    publishedIn [change] = held change.state.module := by
  unfold publishedIn
  rw [coe_filterMap_cons]
  exact add_zero _

theorem releasedIn_append (start : BridgeName → Bridge.State) (first second : List Occurrence) :
    releasedIn start (first ++ second) = releasedIn start first + releasedIn start second := by
  unfold releasedIn
  rw [List.filterMap_append, ← Multiset.coe_add]

/-- A change lets go of the module that its bridge held, and puts a new one in its place. -/
theorem modulesIn_change (start : BridgeName → Bridge.State) (change : Change) :
    held (start change.bridge).module + modulesIn (stateAfter start [change]) =
      modulesIn start + held change.state.module := by
  obtain ⟨name, accepted, state⟩ := change
  unfold modulesIn
  simp only [stateAfter_singleton]
  cases name with
  | own =>
    simp only [if_true, reduceCtorEq, if_false]
    abel
  | shared =>
    simp only [if_true, reduceCtorEq, if_false]
    abel

/-- Where nothing is changed, nothing is let go. -/
theorem releasedIn_nil_add_modulesIn (start : BridgeName → Bridge.State) (past : List Change) :
    releasedIn start [] + modulesIn (stateAfter start (past ++ [])) =
      modulesIn (stateAfter start past) + publishedIn [] := by
  rw [List.append_nil]
  exact add_comm 0 _

-- The recursion is on the reports, through the calls in their outputs.  In each case the change of
-- the step itself comes last, after everything that happened inside it.

mutual

theorem Report.releasedIn_add_modulesIn (start : BridgeName → Bridge.State) (past : List Change) :
    ∀ report : Report,
      releasedIn start (report.timeline past) +
          modulesIn (stateAfter start (past ++ report.changes)) =
        modulesIn (stateAfter start past) + publishedIn report.changes
  | ⟨step, result, output, own, shared⟩ => by
      have hinside := releasedIn_timelineIn start past output
      have hself : releasedIn start (Report.timeline past ⟨step, result, output, own, shared⟩) =
          held (Occurrence.released? start ⟨past, ⟨step, result, output, own, shared⟩⟩) +
            releasedIn start (timelineIn past output) := by
        rw [Report.timeline]
        exact coe_filterMap_cons _ _ _
      rw [hself, Report.changes, Occurrence.released?]
      cases hchange : Report.change? ⟨step, result, output, own, shared⟩ with
      | none =>
        simp only [Option.toList_none, List.append_nil, Option.bind_none, held, zero_add]
        exact hinside
      | some change =>
        have hown := modulesIn_change (stateAfter start (past ++ changesIn output)) change
        rw [← stateAfter_append] at hown
        simp only [Option.toList_some, Option.bind_some, publishedIn_append, publishedIn_singleton]
        rw [← List.append_assoc, ← add_assoc, ← hinside, add_right_comm, hown]
        abel

theorem releasedIn_timelineIn (start : BridgeName → Bridge.State) (past : List Change) :
    ∀ output : List (Observation Report),
      releasedIn start (timelineIn past output) +
          modulesIn (stateAfter start (past ++ changesIn output)) =
        modulesIn (stateAfter start past) + publishedIn (changesIn output)
  | [] => releasedIn_nil_add_modulesIn start past
  | observation :: output => by
      have hfirst := observation.releasedIn_add_modulesIn start past
      have hothers := releasedIn_timelineIn start (past ++ observation.changes) output
      rw [timelineIn, changesIn, releasedIn_append, publishedIn_append, ← List.append_assoc,
        add_assoc, hothers, ← add_assoc, hfirst, add_assoc]

theorem Observation.releasedIn_add_modulesIn (start : BridgeName → Bridge.State)
    (past : List Change) : ∀ observation : Observation Report,
      releasedIn start (observation.timeline past) +
          modulesIn (stateAfter start (past ++ observation.changes)) =
        modulesIn (stateAfter start past) + publishedIn observation.changes
  | .called _ _ (some reports) _ => releasedIn_add_modulesIn start past reports
  | .called _ _ none _ => releasedIn_nil_add_modulesIn start past
  | .analyzed _ _ => releasedIn_nil_add_modulesIn start past
  | .logged _ => releasedIn_nil_add_modulesIn start past
  | .analyzerLogged _ _ => releasedIn_nil_add_modulesIn start past
  | .printed _ => releasedIn_nil_add_modulesIn start past

/-- What the steps of some reports have let go, and what the bridges hold after them, is what the
bridges held before them and what they have published. -/
theorem releasedIn_add_modulesIn (start : BridgeName → Bridge.State) (past : List Change) :
    ∀ reports : List Report,
      releasedIn start (timelineOf past reports) +
          modulesIn (stateAfter start (past ++ changesOf reports)) =
        modulesIn (stateAfter start past) + publishedIn (changesOf reports)
  | [] => releasedIn_nil_add_modulesIn start past
  | report :: reports => by
      have hfirst := report.releasedIn_add_modulesIn start past
      have hothers := releasedIn_add_modulesIn start (past ++ report.changes) reports
      rw [timelineOf, changesOf, releasedIn_append, publishedIn_append, ← List.append_assoc,
        add_assoc, hothers, ← add_assoc, hfirst, add_assoc]

end

/-! ## What is loaded -/

/-- The modules are those of the loads from `first` on up to `next`, each of them once. -/
def Numbered (first next : Nat) (modules : Multiset Loader.Module) : Prop :=
  ∃ count, next = first + count ∧
    modules.map Loader.Module.load = (List.range' first count : Multiset Nat)

theorem Numbered.nil (first : Nat) : Numbered first first 0 :=
  ⟨0, rfl, rfl⟩

theorem Numbered.singleton (module : Loader.Module) :
    Numbered module.load (module.load + 1) {module} :=
  ⟨1, rfl, rfl⟩

theorem Numbered.append {first middle last : Nat} {modules others : Multiset Loader.Module}
    (h : Numbered first middle modules) (hothers : Numbered middle last others) :
    Numbered first last (modules + others) := by
  obtain ⟨count, rfl, hmap⟩ := h
  obtain ⟨count', rfl, hmap'⟩ := hothers
  refine ⟨count + count', Nat.add_assoc _ _ _, ?_⟩
  rw [Multiset.map_add, hmap, hmap', Multiset.coe_add, List.range'_append_1]

theorem Numbered.card {first next : Nat} {modules : Multiset Loader.Module}
    (h : Numbered first next modules) : next = first + Multiset.card modules := by
  obtain ⟨count, rfl, hmap⟩ := h
  have hcard := congrArg Multiset.card hmap
  rw [Multiset.card_map, Multiset.coe_card, List.length_range'] at hcard
  rw [hcard]

@[simp] theorem loads_lettingGo (host : Host) (module : Option Loader.Module) :
    (host.lettingGo module).loader.loads = host.loader.loads := by
  cases module with
  | none => rfl
  | some module => exact Loader.loads_release host.loader module

@[simp] theorem loads_holding (host : Host) (module : Option Loader.Module) :
    (host.holding module).loader.loads = host.loader.loads := by
  cases module <;> rfl

@[simp] theorem loads_observe (host : Host) (output : List (Observation Report)) :
    (host.observe output).loader.loads = host.loader.loads := rfl

@[simp] theorem loads_setBridge (host : Host) (name : BridgeName) (next : Bridge.State) :
    (host.setBridge name next).loader.loads = host.loader.loads := by
  cases name <;> rfl

@[simp] theorem loads_replacing (host : Host) (name : BridgeName) (next : Bridge.State) :
    (host.replacing name next).loader.loads = host.loader.loads := by
  rw [replacing, loads_lettingGo, loads_lettingGo, loads_setBridge]

@[simp] theorem loads_modifyStatics (host : Host) (code : Code)
    (f : Loader.Statics → Loader.Statics) :
    (host.modifyStatics code f).loader.loads = host.loader.loads := by
  cases code with
  | linked unit => rfl
  | image file =>
    change (host.loader.modifyStatics file f).loads = _
    unfold Loader.modifyStatics
    cases host.loader.images file <;> rfl

theorem loads_entryVisit (setup : Setup) (host : Host) (code : Code) (call : Call) :
    (entryVisit setup host code call).host.loader.loads = host.loader.loads := by
  unfold entryVisit
  cases setup.program code <;> simp [receiveCode]

variable {setup : Setup} {run : Runner} {host : Host}

theorem loads_visitOf {engine : Engine} {demand : Demand} {visit : Visit}
    (hvisit : visitOf setup host engine demand = some visit) :
    visit.host.loader.loads = host.loader.loads := by
  cases engine with
  | inert => cases hvisit
  | custom name =>
    obtain rfl := Option.some.inj hvisit
    rfl
  | native native =>
    obtain rfl := Option.some.inj hvisit
    exact loads_entryVisit setup host native.code demand.call

theorem Frame.loads_leave (frame : Frame) (answer : Answer) (host : Host) :
    (frame.leave answer host).loader.loads = host.loader.loads := by
  cases frame with
  | attempt name engine module =>
    unfold leave
    rcases answer.startup with started | _
    · cases started <;> simp
    · simp
  | deciding engine =>
    unfold leave
    cases answer.decision <;> simp
  | ingesting engine =>
    unfold leave
    cases answer.ingestion <;> simp

/-- The module of a load has the number that the loader had reached. -/
theorem numbered_of_load {path : String} {module : Loader.Module} {loader : Loader}
    (hload : host.loader.load path = .ok (module, loader)) :
    Numbered host.loader.loads loader.loads {module} := by
  obtain ⟨found, rfl, rfl⟩ := Loader.exists_found_of_load hload
  exact .singleton ⟨host.loader.loads, path, found.file⟩

/-- Between the two processes exactly the modules that are published in the changes were loaded. -/
def LoadsPublished (host : Host) (changes : List Change) (after : Host) : Prop :=
  Numbered host.loader.loads after.loader.loads (publishedIn changes)

theorem Visit.loadsPublished_ending
    (hrun : ∀ steps host, LoadsPublished host (changesOf ((run.all steps).run host).1)
      ((run.all steps).run host).2) (visit : Visit) :
    LoadsPublished visit.host (changesOf (visit.contact run).inner) (visit.ending run) := by
  unfold ending contact callBack
  cases visit.callbacks run with
  | none => exact .nil _
  | some steps => exact hrun steps visit.host

/-- The module that an operation publishes: that of the new state, if it replaces a state. -/
def Operation.publishes (operation : Operation) (next : Bridge.State) : Multiset Loader.Module :=
  if operation.replaces then held next.module else 0

theorem Operation.publishes_of_demand? {operation : Operation} {demand : Demand}
    (hdemand : operation.demand? = some demand) (next : Bridge.State) :
    operation.publishes next = 0 := by
  cases operation <;> first | rfl | cases hdemand

theorem attemptState_module (outcome : Outcome Bool) (engine : Engine)
    (module : Option Loader.Module) : (attemptState outcome engine module).module = module := by
  rcases outcome with started | _
  · cases started <;> rfl
  · rfl

/-- A replacement publishes what its new state holds. -/
theorem Course.numbered_replace {operation : Operation} (hreplaces : operation.replaces = true)
    {before : Nat} {name : BridgeName} {next : Bridge.State} {start : Host}
    {notes : List (Observation Report)} {b : Bool}
    (h : Numbered before start.loader.loads (held next.module)) :
    let finished := ((Course.replace name next start notes b).finish run).2
    Numbered before finished.loader.loads
      (publishedIn (changesOf (innerOf none)) + operation.publishes (finished.bridge name)) := by
  intro finished
  have hloads : finished.loader.loads = start.loader.loads := by
    unfold finished
    rw [Course.finish, loads_observe, loads_replacing]
  have hstate : finished.bridge name = next := by
    unfold finished
    rw [Course.finish, bridge_observe, bridge_replacing, if_pos rfl]
  have hnothing : publishedIn (changesOf (innerOf none)) = 0 := rfl
  rw [hnothing, zero_add, Operation.publishes, if_pos hreplaces, hloads, hstate]
  exact h

/-- The step lemma for operations: what was loaded in an operation and in the steps inside it is what
they have published.  The module of the operation itself is loaded first and published last. -/
theorem Goes.numbered
    (hrun : ∀ steps host, LoadsPublished host (changesOf ((run.all steps).run host).1)
      ((run.all steps).run host).2)
    {name : BridgeName} {operation : Operation} {course : Course}
    (hgoes : Goes setup host name operation course) :
    Numbered host.loader.loads (course.finish run).2.loader.loads
      (publishedIn (changesOf (innerOf (course.contact? run))) +
        operation.publishes ((course.finish run).2.bridge name)) := by
  have hinner : ∀ visit : Visit, Numbered visit.host.loader.loads (visit.ending run).loader.loads
      (publishedIn (changesOf (innerOf (some (visit.contact run))))) := fun visit =>
    visit.loadsPublished_ending hrun
  have hattempt : ∀ {loads}, operation.loads? = some loads → operation.replaces = true :=
    fun h => Operation.replaces_of_isAttempt (Operation.isAttempt_of_loads? h)
  have hsupplied : ∀ {supplies}, operation.supplies? setup = some supplies →
      operation.replaces = true :=
    fun h => Operation.replaces_of_isAttempt (Operation.isAttempt_of_supplies? h)
  cases hgoes with
  | loadFails hloads hload => exact Course.numbered_replace (hattempt hloads) (.nil _)
  | lacks hloads hload hmissing =>
    refine Course.numbered_replace (hattempt hloads) ?_
    rw [loads_observe, loads_lettingGo, loads_holding]
    exact numbered_of_load hload
  | @startsLoaded path args module loader visit hloads hload hcomplete hvisit =>
    have hentered : visit.host.loader.loads = loader.loads := by
      rw [loads_visitOf hvisit, loads_holding]
      rfl
    have hown := (numbered_of_load hload).append (hentered ▸ hinner visit)
    rw [Course.contact?, Course.finish, Operation.publishes, if_pos (hattempt hloads),
      Frame.bridge_leave_attempt, if_pos rfl, attemptState_module, Frame.loads_leave, add_comm]
    exact hown
  | refuses hsupplies => exact Course.numbered_replace (hsupplied hsupplies) (.nil _)
  | @startsSupplied engine args visit hsupplies hvisit =>
    rw [Course.contact?, Course.finish, Operation.publishes, if_pos (hsupplied hsupplies),
      Frame.bridge_leave_attempt, if_pos rfl, attemptState_module, Frame.loads_leave,
      ← loads_visitOf hvisit, show held none = 0 from rfl, add_zero]
    exact hinner visit
  | disables hdisable =>
    subst hdisable
    exact Course.numbered_replace rfl (.nil _)
  | unheard hdemand hengine =>
    rw [Operation.publishes_of_demand? hdemand]
    exact .nil _
  | @forwards engine demand visit hdemand hengine hvisit =>
    have hentered : visit.host.loader.loads = host.loader.loads := by
      rw [loads_visitOf hvisit, loads_holding]
    rw [Operation.publishes_of_demand? hdemand, add_zero, Course.contact?, Course.finish,
      Frame.loads_leave, ← hentered]
    exact hinner visit
  | shutsDown hshutdown =>
    subst hshutdown
    exact Course.numbered_replace rfl (.nil _)

/-- The step lemma: the changes of a step publish what has been loaded in it. -/
theorem report_loadsPublished (hrun : Tracks setup run)
    (hloads : ∀ steps host, LoadsPublished host (changesOf ((run.all steps).run host).1)
      ((run.all steps).run host).2) (step : Step) (host : Host) :
    LoadsPublished host ((report setup run step).run host).1.changes
      ((report setup run step).run host).2 := by
  have hchanges := ((report setup run step).run host).1.changes_eq
  rw [LoadsPublished, hchanges, publishedIn_append]
  change Numbered host.loader.loads ((perform setup run step).run host.beginning).2.loader.loads
    (publishedIn (changesIn ((perform setup run step).run host.beginning).2.output) + _)
  cases htarget : step.target? with
  | some target =>
    obtain ⟨name, operation⟩ := target
    obtain ⟨course, hgoes, hperforms⟩ := exists_goes_of_target setup htarget host.beginning
    obtain ⟨hcarries, -, -⟩ := hgoes.fits hrun (quiet_preface step)
    have hown : publishedIn ((report setup run step).run host).1.change?.toList =
        operation.publishes ((course.finish run).2.bridge name) := by
      rw [Report.change?_of_target (show ((report setup run step).run host).1.step.target? = _ from
        htarget), report_state, hperforms run, bridge_closing, Operation.publishes]
      cases operation.replaces with
      | false => rfl
      | true => exact publishedIn_singleton _
    rw [hown, hperforms run, (hcarries.closing setup step).changesIn, loader_closing]
    exact hgoes.numbered hloads
  | none =>
    have hown : ((report setup run step).run host).1.change? = none := by
      rw [Report.change?, show ((report setup run step).run host).1.step.target? = none from htarget]
    rw [hown]
    cases hvisit : step.directVisit? setup host.beginning with
    | some visit =>
      obtain ⟨result, hperform⟩ := perform_of_directVisit setup hvisit run
      have hcarries := visit.carries_ending hrun (directVisit_from hvisit) .nil
      have hentered : visit.host.loader.loads = host.loader.loads := by
        rcases visit_of_directVisit? setup hvisit with ⟨engine, demand, hvisit⟩ | ⟨code, call, rfl⟩
        · exact (loads_visitOf hvisit :)
        · exact loads_entryVisit setup host.beginning code call
      rw [hperform, hcarries.changesIn, ← hentered, show publishedIn none.toList = 0 from rfl,
        add_zero]
      exact visit.loadsPublished_ending hloads
    | none =>
      obtain ⟨result, hperform⟩ := perform_of_aside setup htarget hvisit
      rw [hperform run]
      exact .nil _

/-- A run publishes exactly the modules that it loads, each of them once. -/
theorem loads_published (depth : Nat) (steps : List Step) (host : Host) :
    LoadsPublished host (changesOf ((runSteps setup depth steps).run host).1)
      ((runSteps setup depth steps).run host).2 := by
  refine runSteps_induction (fun host ran => LoadsPublished host (changesOf ran.1) ran.2)
    (fun host ran => LoadsPublished host ran.1.changes ran.2) (fun host => .nil _)
    (fun host first others hfirst hothers => ?_)
    (fun depth hloads => report_loadsPublished (calledBack_tracks depth) hloads)
    depth steps host
  have hboth := Numbered.append hfirst hothers
  rw [← publishedIn_append] at hboth
  exact hboth

/-- Every module that a run loads is let go exactly once, or is there in the end. -/
theorem released_or_present (setup : Setup) (depth : Nat) (steps : List Step) {start : Host}
    (hempty : modulesIn start.bridge = 0) :
    let ran := (runSteps setup depth steps).run start
    Numbered start.loader.loads ran.2.loader.loads
      (releasedIn start.bridge (timelineOf [] ran.1) + modulesIn ran.2.bridge) := by
  intro ran
  obtain ⟨-, hbridge, -⟩ := @runSteps_tracks setup depth steps start
  have hbalance := releasedIn_add_modulesIn start.bridge [] ran.1
  rw [List.nil_append, ← hbridge, show stateAfter start.bridge [] = start.bridge from rfl, hempty,
    zero_add] at hbalance
  rw [hbalance]
  exact loads_published depth steps start

end Host
end FailOpen
