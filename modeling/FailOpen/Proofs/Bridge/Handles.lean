import FailOpen.Proofs.Bridge.InFlight
import FailOpen.Proofs.Timeline.Releases
import FailOpen.Proofs.Timeline.Requests

/-!
# The handles of a process

Every load of a library opens a handle.  This module says who owns the handles that are open, at every
moment of a run, and how each of them is given back.

* `Moment.handles_eq` counts them: besides those that were open before the run, there is one for each
  load whose module is in a bridge or is held by a call under way.
* `Enters.isMapped_of_image` says that code out of a file is only called while the file is mapped.
* `released?_isSome_of_isReleasing` says that a shutdown that answers yes has let go of a module.
* `balanced_of_run` states all of this for whole runs, and that every load is let go exactly once.
-/

namespace FailOpen
namespace Host

/-! ## Modules of coherent states -/

variable {setup : Setup}

/-- The engine of a coherent state holds no module but the one that the state holds itself. -/
theorem Coherent.mem_heldBy_iff {state : Bridge.State} (h : Coherent setup state)
    (module : Loader.Module) : module ∈ heldBy state ↔ module ∈ held state.module := by
  have hengine : state.engine.module? = none ∨ state.engine.module? = state.module := by
    by_cases hinitialized : state.status = .initialized
    · cases hmodule : state.module with
      | none => exact .inl (h.unbound hinitialized hmodule)
      | some module =>
        rw [(h.bound hinitialized hmodule).1]
        exact .inr rfl
    · have hinert : state.engine = .inert := by
        by_contra hne
        exact hinitialized (h.initialized_iff.mpr hne)
      rw [hinert]
      exact .inl rfl
  unfold heldBy
  rw [Multiset.mem_add]
  rcases hengine with hnone | hsame
  · rw [hnone]
    exact or_iff_right (Multiset.notMem_zero module)
  · rw [hsame, or_self]

theorem mem_held_iff {module : Loader.Module} {option : Option Loader.Module} :
    module ∈ held option ↔ option = some module := by
  cases option with
  | none => simp [held]
  | some other => simp [held, eq_comm]

theorem mem_modulesIn_iff {states : BridgeName → Bridge.State} {module : Loader.Module} :
    module ∈ modulesIn states ↔ ∃ name, (states name).module = some module := by
  unfold modulesIn
  rw [Multiset.mem_add, mem_held_iff, mem_held_iff]
  refine ⟨fun h => h.elim (⟨.own, ·⟩) (⟨.shared, ·⟩), ?_⟩
  rintro ⟨name, hmodule⟩
  cases name with
  | own => exact .inl hmodule
  | shared => exact .inr hmodule

/-! ## Engines over files -/

/-- An engine over a file holds a module of that file. -/
def Backed (engine : Engine) : Prop :=
  ∀ file, partyOf engine = some (.code (.image file)) →
    ∃ module, engine.module? = some module ∧ module.file = file

theorem backed_inert : Backed .inert := by
  intro file hparty
  cases hparty

theorem backed_engineIn (module : Loader.Module) : Backed (engineIn module) := by
  intro file hparty
  obtain rfl : module.file = file := by simpa [engineIn, partyOf] using hparty
  exact ⟨module, rfl, rfl⟩

theorem party_of_supplies? {operation : Operation} {engine : Engine} {args : Startup.Arguments}
    (h : operation.supplies? setup = some (engine, args)) (file : String) :
    partyOf engine ≠ some (.code (.image file)) := by
  cases operation with
  | startSupplied name args =>
    obtain ⟨rfl, -⟩ := Prod.mk.inj (Option.some.inj h)
    exact partyOf_engine_ne_image setup name file
  | _ => cases h

theorem backed_of_supplies? {operation : Operation} {engine : Engine} {args : Startup.Arguments}
    (h : operation.supplies? setup = some (engine, args)) : Backed engine :=
  fun file hparty => (party_of_supplies? h file hparty).elim

/-- The bridges have no engine over a file without a module of it. -/
def AllBacked (host : Host) : Prop :=
  ∀ name, Backed (host.bridge name).engine

theorem AllBacked.of_bridge_eq {host next : Host} (h : AllBacked host)
    (hbridge : next.bridge = host.bridge) : AllBacked next := fun name => by
  rw [hbridge]
  exact h name

/-- Whatever an attempt gives a bridge as its engine is backed. -/
theorem backed_of_goes {host : Host} {name attempted : BridgeName} {operation : Operation}
    {engine : Engine} {module : Option Loader.Module} {visit : Visit}
    (hgoes : Goes setup host name operation (.reach (.attempt attempted engine module) visit)) :
    Backed engine := by
  generalize hframe : Frame.attempt attempted engine module = frame at hgoes
  cases hgoes with
  | startsLoaded hloads hload hcomplete hvisit =>
    obtain ⟨-, rfl, -⟩ := Frame.attempt.inj hframe
    exact backed_engineIn _
  | startsSupplied hsupplies hvisit =>
    obtain ⟨-, rfl, -⟩ := Frame.attempt.inj hframe
    exact backed_of_supplies? hsupplies
  | @forwards engine demand visit hdemand hengine hvisit => cases demand <;> cases hframe

theorem allBacked_invariant : Invariant setup AllBacked where
  observes h output := h.of_bridge_eq (funext fun name => by cases name <;> rfl)
  registers h cleanup failures := h.of_bridge_eq (funext fun name => by cases name <;> rfl)
  stores h disk := h.of_bridge_eq (bridge_withDisk _ disk)
  calls hvisit h := h.of_bridge_eq (directVisit_from hvisit).bridge
  replaces := by
    intro host name operation next start notes b hgoes h other
    rcases hgoes.engine_replacing other with hinert | hsame
    · rw [hinert]
      exact backed_inert
    · rw [hsame]
      exact h other
  enters := by
    intro host name operation frame visit hgoes h
    exact h.of_bridge_eq hgoes.bridge_enter
  leaves := by
    intro host name operation frame visit after hgoes h hfollows hafter run other
    rcases frame.engine_leave (visit.answer run) after other with
      hinert | hsame | ⟨engine, module, rfl, -, hengine⟩
    · rw [hinert]
      exact backed_inert
    · rw [hsame]
      exact hafter other
    · rw [hengine]
      exact backed_of_goes hgoes

/-! ## Code out of a file -/

/-- A step without a bridge calls supplied engines, and none of these is over a file. -/
theorem party_of_directVisit? {host : Host} {step : Step} {visit : Visit}
    (hvisit : step.directVisit? setup host = some visit) (file : String) :
    visit.party ≠ .code (.image file) := by
  intro hparty
  cases step with
  | engine name request =>
    obtain ⟨demand, -, hvisit⟩ := Option.bind_eq_some_iff.mp hvisit
    obtain ⟨-, hengine, -⟩ := visitOf_from hvisit
    exact partyOf_engine_ne_image setup name file (hengine.trans (congrArg some hparty))
  | entry name call =>
    cases hengine : setup.engine name with
    | native native =>
      obtain rfl : entryVisit setup host native.code call = visit := by
        simpa [Step.directVisit?, hengine] using hvisit
      rw [(entryVisit_party setup host native.code call).1] at hparty
      refine partyOf_engine_ne_image setup name file ?_
      rw [hengine]
      exact congrArg some hparty
    | _ => simp [Step.directVisit?, hengine] at hvisit
  | _ => cases hvisit

/-- A step that calls code out of a file holds a module of that file until the code has answered. -/
theorem Enters.exists_held_of_image {host : Host} {step : Step} {inCall : Multiset Loader.Module}
    {visit : Visit} (henters : Enters setup host step inCall visit) (hbacked : AllBacked host)
    {file : String} (hparty : visit.party = .code (.image file)) :
    ∃ module ∈ inCall, module.file = file := by
  cases henters with
  | @operation name operation frame visit htarget hgoes =>
    cases hgoes with
    | @startsLoaded path args module loader visit hloads hload hcomplete hvisit =>
      obtain ⟨-, hengine, -⟩ := visitOf_from hvisit
      obtain ⟨module', hmodule, hfile⟩ := backed_engineIn module file (hengine.trans (by rw [hparty]))
      refine ⟨module', Multiset.mem_add.mpr (.inl ?_), hfile⟩
      exact mem_held_iff.mpr hmodule
    | startsSupplied hsupplies hvisit =>
      obtain ⟨-, hengine, -⟩ := visitOf_from hvisit
      obtain ⟨module, hmodule, hfile⟩ :=
        backed_of_supplies? hsupplies file (hengine.trans (by rw [hparty]))
      exact ⟨module, Multiset.mem_add.mpr (.inl (mem_held_iff.mpr hmodule)), hfile⟩
    | @forwards engine demand visit hdemand hengine hvisit =>
      subst hengine
      obtain ⟨-, hengine, -⟩ := visitOf_from hvisit
      rw [bridge_observe, bridge_beginning] at hengine
      obtain ⟨module, hmodule, hfile⟩ := hbacked name file (hengine.trans (by rw [hparty]))
      rw [held_frameOf, bridge_observe, bridge_beginning]
      exact ⟨module, mem_held_iff.mpr hmodule, hfile⟩
  | direct hvisit => exact (party_of_directVisit? hvisit file hparty).elim

/-! ## Shutdowns -/

/-- A shutdown calls nobody, so nothing is changed inside it. -/
theorem changesIn_of_shutdown {run : Runner} (hrun : Tracks setup run) {step : Step}
    {name : BridgeName} (htarget : step.target? = some (name, .shutdown)) (host : Host) :
    changesIn ((report setup run step).run host).1.output = [] := by
  obtain ⟨course, hgoes, hperforms⟩ := exists_goes_of_target setup htarget host.beginning
  obtain ⟨hcarries, -, -⟩ := hgoes.fits hrun (quiet_preface step)
  replace hcarries := hcarries.closing setup step
  rw [← congrArg (fun performed => performed.2.output) (hperforms run)] at hcarries
  have hcontact : course.contact? run = none := by
    cases hgoes with
    | startsLoaded hloads hload hcomplete hvisit => cases hloads
    | startsSupplied hsupplies hvisit => cases hsupplies
    | forwards hdemand hengine hvisit => cases hdemand
    | _ => rfl
  change changesIn ((perform setup run step).run host.beginning).2.output = []
  rw [hcarries.changesIn, hcontact]
  rfl

/-- The shutdown lets go of a module and says so. -/
def Occurrence.isReleasing (occurrence : Occurrence) : Bool :=
  match occurrence.report.step.target? with
  | some (_, .shutdown) => occurrence.report.result = .flag true
  | _ => false

/-- A shutdown that answers yes has let go of a module. -/
theorem released?_isSome_of_isReleasing {depth : Nat} {steps : List Step} {start : Host}
    {occurrence : Occurrence}
    (hmem : occurrence ∈ timelineOf [] ((runSteps setup depth steps).run start).1)
    (hreleasing : occurrence.isReleasing) : (occurrence.released? start.bridge).isSome := by
  obtain ⟨name, htarget⟩ : ∃ name, occurrence.report.step.target? = some (name, .shutdown) := by
    unfold Occurrence.isReleasing at hreleasing
    split at hreleasing
    · exact ⟨_, ‹_›⟩
    · cases hreleasing
  have hflag : occurrence.report.result = .flag true := by
    simpa [Occurrence.isReleasing, htarget] using hreleasing
  obtain ⟨inCalls, host, nesting, step, -, hreport⟩ := exists_moment_of_occurrence hmem
  obtain ⟨-, -, htruthful⟩ := @runSteps_tracks setup depth steps start
  have hresult := ((htruthful occurrence hmem).shutsDown htarget).2
  have hinside : changesIn occurrence.report.output = [] := by
    rw [hreport]
    rw [hreport] at htarget
    exact changesIn_of_shutdown (calledBack_tracks nesting) htarget host
  rw [Occurrence.released?, Report.change?_of_target htarget, hinside, List.append_nil]
  change (stateAfter start.bridge occurrence.past name).hasModule = true
  -- the result shows whether there was a module, and a flag shows it as it is
  rw [hflag] at hresult
  cases hstep : occurrence.report.step with
  | bridge other operation =>
    rw [hstep] at hresult htarget
    obtain ⟨rfl, rfl⟩ := Prod.mk.inj (Option.some.inj htarget)
    exact (Result.flag.inj hresult).symm
  | exported function =>
    rw [hstep] at hresult
    cases function <;> cases hresult
  | _ =>
    rw [hstep] at htarget
    cases htarget

/-- There are at least as many releases as shutdowns that answer yes. -/
theorem countP_isReleasing_le (setup : Setup) (depth : Nat) (steps : List Step) (start : Host) :
    let timeline := timelineOf [] ((runSteps setup depth steps).run start).1
    timeline.countP Occurrence.isReleasing ≤ Multiset.card (releasedIn start.bridge timeline) := by
  intro timeline
  rw [releasedIn, Multiset.coe_card, List.length_filterMap_eq_countP]
  exact List.countP_mono_left fun occurrence hmem hreleasing =>
    released?_isSome_of_isReleasing hmem hreleasing

/-- The process in which both bridges have been dropped. -/
def dropping (host : Host) : Host :=
  (host.replacing .own .unloaded).replacing .shared .unloaded

theorem Accounted.dropping {base : Loader} {around : Multiset Loader.Module} {host : Host}
    (h : host.Accounted base around) : base.Accounts around host.dropping.loader := by
  have hown : (host.replacing .own .unloaded).Accounted base around :=
    Accounted.replacing (h.cast (zero_add around).symm)
  have hboth : host.dropping.Accounted base around :=
    Accounted.replacing (hown.cast (zero_add around).symm)
  have hbridge : ∀ name, host.dropping.bridge name = .unloaded := by
    intro name
    rw [Host.dropping, bridge_replacing, bridge_replacing]
    cases name <;> rfl
  unfold Accounted at hboth
  rw [show host.dropping.own = .unloaded from hbridge .own,
    show host.dropping.shared = .unloaded from hbridge .shared, show heldBy .unloaded = 0 from rfl,
    add_zero, add_zero] at hboth
  exact hboth

/-! ## All handles of a run -/

section

variable {start host : Host} {depth : Nat} {steps : List Step} {inCalls : Multiset Loader.Module}

theorem coherent_of_unloaded (hunloaded : ∀ name, start.bridge name = .unloaded)
    (name : BridgeName) : Coherent setup (start.bridge name) := by
  rw [hunloaded name]
  exact coherent_unloaded

/-- If the loader has counted the holders of coherent bridges, there is one handle for each load whose
module is in a bridge or held around the process. -/
theorem Accounted.handles_eq {base : Loader} {around : Multiset Loader.Module}
    (h : host.Accounted base around) (hcoherent : ∀ name, Coherent setup (host.bridge name))
    (file : String) :
    host.loader.handles file =
      base.handles file + (Loader.openedFor (around + modulesIn host.bridge) file).card := by
  rw [Loader.Accounts.handles h file]
  -- a module is counted once, whether the engine of its state holds it or not
  have hsame : Loader.openedFor (around + heldBy host.own + heldBy host.shared) file =
      Loader.openedFor (around + modulesIn host.bridge) file := by
    ext module
    have hown := (hcoherent .own).mem_heldBy_iff module
    have hshared := (hcoherent .shared).mem_heldBy_iff module
    simp only [Loader.openedFor, Finset.mem_filter, Multiset.mem_toFinset, Multiset.mem_add,
      modulesIn, ← hown, ← hshared, or_assoc]
    exact Iff.rfl
  rw [hsame]

theorem Accounted.isMapped_iff {base : Loader} {around : Multiset Loader.Module}
    (h : host.Accounted base around) (hcoherent : ∀ name, Coherent setup (host.bridge name))
    {file : String} (hbase : base.isMapped file → 0 < base.handles file) :
    host.loader.isMapped file ↔ 0 < host.loader.handles file := by
  refine ⟨fun hmapped => ?_, Loader.isMapped_of_handles_pos⟩
  by_contra hnone
  have hzero : host.loader.handles file = 0 := by omega
  have hbefore := hbase (Loader.Accounts.orphans h file hmapped hzero)
  have hmore := h.handles_eq hcoherent file
  omega

theorem Accounted.isMapped_iff_exists {base : Loader} {around : Multiset Loader.Module}
    (h : host.Accounted base around) (hcoherent : ∀ name, Coherent setup (host.bridge name))
    {file : String} (hbase : base.isMapped file = false) :
    host.loader.isMapped file ↔ ∃ module ∈ around + modulesIn host.bridge, module.file = file := by
  rw [h.isMapped_iff hcoherent (by simp [hbase]), h.handles_eq hcoherent,
    Loader.handles_of_not_isMapped hbase, zero_add, Finset.card_pos]
  simp only [Finset.Nonempty, Loader.openedFor, Finset.mem_filter, Multiset.mem_toFinset]

/-- If no other bridge has a module of the file, it is mapped exactly while the bridge has one. -/
theorem Accounted.isMapped_iff_pinned {base : Loader} (h : host.Accounted base 0)
    (hcoherent : ∀ name, Coherent setup (host.bridge name)) {name : BridgeName} {file : String}
    (hbase : base.isMapped file = false)
    (hothers : ∀ other ≠ name, ¬ Pinned (.image file) (host.bridge other)) :
    host.loader.isMapped file ↔ Pinned (.image file) (host.bridge name) := by
  rw [h.isMapped_iff_exists hcoherent hbase]
  simp only [zero_add, mem_modulesIn_iff]
  constructor
  · rintro ⟨module, ⟨other, hheld⟩, hfile⟩
    by_cases hother : other = name
    · exact hother ▸ ⟨module, hheld, hfile⟩
    · exact (hothers other hother ⟨module, hheld, hfile⟩).elim
  · rintro ⟨module, hheld, hfile⟩
    exact ⟨module, ⟨name, hheld⟩, hfile⟩

/-- At every moment there is one handle for each load whose module is in a bridge or held by a call
under way, besides the handles from before the run. -/
theorem Moment.handles_eq (hmoment : Moment setup depth start steps inCalls host)
    (hunloaded : ∀ name, start.bridge name = .unloaded) (file : String) :
    host.loader.handles file = start.loader.handles file +
      (Loader.openedFor (inCalls + modulesIn host.bridge) file).card :=
  ((hmoment.accounted (accounted_of_unloaded hunloaded)).cast (add_zero inCalls)).handles_eq
    (hmoment.coherent (coherent_of_unloaded hunloaded)) file

/-- At every moment a file is mapped exactly if there is a handle to it, if that was so before. -/
theorem Moment.isMapped_iff (hmoment : Moment setup depth start steps inCalls host)
    (hunloaded : ∀ name, start.bridge name = .unloaded) {file : String}
    (hstart : start.loader.isMapped file → 0 < start.loader.handles file) :
    host.loader.isMapped file ↔ 0 < host.loader.handles file :=
  (hmoment.accounted (accounted_of_unloaded hunloaded)).isMapped_iff
    (hmoment.coherent (coherent_of_unloaded hunloaded)) hstart

/-- A file that was not mapped before the run is mapped exactly while a bridge or a call under way
holds a module of it. -/
theorem Moment.isMapped_iff_exists (hmoment : Moment setup depth start steps inCalls host)
    (hunloaded : ∀ name, start.bridge name = .unloaded) {file : String}
    (hstart : start.loader.isMapped file = false) :
    host.loader.isMapped file ↔ ∃ module ∈ inCalls + modulesIn host.bridge, module.file = file :=
  ((hmoment.accounted (accounted_of_unloaded hunloaded)).cast (add_zero inCalls)).isMapped_iff_exists
    (hmoment.coherent (coherent_of_unloaded hunloaded)) hstart

/-- At every moment, when a step calls code out of a file, the file is mapped as long as the call
lasts. -/
theorem Enters.isMapped_of_image (hmoment : Moment setup depth start steps inCalls host)
    (hunloaded : ∀ name, start.bridge name = .unloaded) {step : Step}
    {inCall : Multiset Loader.Module} {visit : Visit} (henters : Enters setup host step inCall visit)
    {file : String} (hparty : visit.party = .code (.image file)) {nesting : Nat}
    {inner : Multiset Loader.Module} {moment : Host}
    (hinside : Moment setup nesting visit.host
      ((visit.callbacks (calledBack setup (nesting + 1))).getD []) inner moment) :
    moment.loader.isMapped file := by
  have hbacked : AllBacked host := allBacked_invariant.holds_moment hmoment fun name => by
    rw [hunloaded name]
    exact backed_inert
  obtain ⟨module, hmem, rfl⟩ := henters.exists_held_of_image hbacked hparty
  have haccounted := henters.accounted (hmoment.accounted (accounted_of_unloaded hunloaded))
  refine (hinside.accounted haccounted).isMapped ?_
  exact Multiset.mem_add.mpr (.inr (Multiset.mem_add.mpr (.inl hmem)))

end

/-- The books of a run balance: every handle has an owner, and every load is given back once. -/
structure Balanced (setup : Setup) (depth : Nat) (steps : List Step) (start : Host)
    (ran : List Report × Host) : Prop where
  /-- At every moment, the handles opened since the beginning are those of the modules in the bridges
  and of the calls under way, one for each load. -/
  handles : ∀ {inCalls host}, Moment setup depth start steps inCalls host → ∀ file,
    host.loader.handles file = start.loader.handles file +
      (Loader.openedFor (inCalls + modulesIn host.bridge) file).card
  /-- At every moment, a file is mapped exactly if there is a handle to it. -/
  mapped : ∀ {inCalls host}, Moment setup depth start steps inCalls host → ∀ {file},
    (start.loader.isMapped file → 0 < start.loader.handles file) →
      (host.loader.isMapped file ↔ 0 < host.loader.handles file)
  /-- Whenever code out of a file is called, the file is mapped as long as the call lasts. -/
  used : ∀ {inCalls host}, Moment setup depth start steps inCalls host →
    ∀ {step inCall visit}, Enters setup host step inCall visit →
      ∀ {file}, visit.party = .code (.image file) → ∀ {nesting inner moment},
        Moment setup nesting visit.host
            ((visit.callbacks (calledBack setup (nesting + 1))).getD []) inner moment →
          moment.loader.isMapped file
  /-- When the steps are over, a file is mapped exactly if a bridge holds a module of it. -/
  settled : ∀ {file}, start.loader.isMapped file = false →
    (ran.2.loader.isMapped file ↔
      ∃ name module, (ran.2.bridge name).module = some module ∧ module.file = file)
  /-- Every load is let go once, by a change of its bridge, or its module is still in a bridge. -/
  released : Numbered start.loader.loads ran.2.loader.loads
    (releasedIn start.bridge (timelineOf [] ran.1) + modulesIn ran.2.bridge)
  loads : ran.2.loader.loads = start.loader.loads +
    Multiset.card (releasedIn start.bridge (timelineOf [] ran.1)) +
      ran.2.own.hasModule.toNat + ran.2.shared.hasModule.toNat
  /-- No more shutdowns answer yes than loads have been made. -/
  shutdowns : start.loader.loads + (timelineOf [] ran.1).countP Occurrence.isReleasing ≤
    ran.2.loader.loads
  /-- Of two shutdowns with no change of the bridge between them the second answers no. -/
  again : ∀ {first second : Occurrence}, first ∈ timelineOf [] ran.1 →
    second ∈ timelineOf [] ran.1 → ∀ {name}, first.report.step.target? = some (name, .shutdown) →
      second.report.step.target? = some (name, .shutdown) →
        (∃ later, second.past = first.span ++ later ∧ ∀ change ∈ later, change.bridge ≠ name) →
          second.report.result = second.report.step.shows false
  /-- When the bridges are dropped, no handle of the run is left. -/
  dropped : ∀ file, ran.2.dropping.loader.handles file = start.loader.handles file

/-- The books of every run that begins with unloaded bridges balance, whatever the engines do in
their calls. -/
theorem balanced_of_run {start : Host} (hunloaded : ∀ name, start.bridge name = .unloaded)
    (depth : Nat) (steps : List Step) :
    Balanced setup depth steps start ((runSteps setup depth steps).run start) := by
  have hend : Moment setup depth start steps 0 ((runSteps setup depth steps).run start).2 :=
    Moment.last depth steps start
  have hempty : modulesIn start.bridge = 0 := by
    unfold modulesIn
    rw [hunloaded .own, hunloaded .shared]
    rfl
  obtain ⟨-, -, htruthful⟩ := @runSteps_tracks setup depth steps start
  have hnumbered := released_or_present setup depth steps hempty
  have hcount := countP_isReleasing_le setup depth steps start
  have haccounted := (hend.accounted (accounted_of_unloaded hunloaded)).dropping
  revert hend htruthful hnumbered hcount haccounted
  generalize (runSteps setup depth steps).run start = ran
  intro hend htruthful hnumbered hcount haccounted
  have hloads : ran.2.loader.loads = start.loader.loads +
      Multiset.card (releasedIn start.bridge (timelineOf [] ran.1)) +
        ran.2.own.hasModule.toNat + ran.2.shared.hasModule.toNat := by
    have hcard : ∀ module : Option Loader.Module,
        Multiset.card (held module) = module.isSome.toNat := by
      intro module
      cases module <;> rfl
    rw [hnumbered.card, Multiset.card_add, modulesIn, Multiset.card_add, hcard, hcard, add_assoc,
      add_assoc]
    rfl
  refine ⟨fun hmoment => hmoment.handles_eq hunloaded, fun hmoment => hmoment.isMapped_iff hunloaded,
    fun hmoment _ _ _ henters _ hparty => henters.isMapped_of_image hmoment hunloaded hparty,
    fun {file} hstart => ?_, hnumbered, hloads, by omega,
    fun {first second} hfirst hsecond {name} htarget htarget' hlater => ?_, fun file => ?_⟩
  · simp only [hend.isMapped_iff_exists hunloaded hstart, zero_add, mem_modulesIn_iff]
    exact ⟨fun ⟨module, ⟨name, hmodule⟩, hfile⟩ => ⟨name, module, hmodule, hfile⟩,
      fun ⟨name, module, hmodule, hfile⟩ => ⟨module, ⟨name, hmodule⟩, hfile⟩⟩
  · -- nothing has changed the bridge since the first shutdown left it unloaded
    obtain ⟨later, hpast, hother⟩ := hlater
    have hbefore : stateAfter start.bridge second.past name = .unloaded := by
      have hnone : latest? later name = none := latest?_eq_none_iff.mpr hother
      rw [hpast, stateAfter_append, stateAfter, hnone, Option.elim_none, Occurrence.span,
        stateAfter_append, ← (htruthful first hfirst).states name]
      exact ((htruthful first hfirst).shutsDown htarget).1
    rw [((htruthful second hsecond).shutsDown htarget').2, hbefore]
    rfl
  · rw [Loader.Accounts.handles haccounted file, zero_add, Loader.openedFor, Multiset.toFinset_zero,
      Finset.filter_empty, Finset.card_empty, Nat.add_zero]

/-- The steps of starting a library, asking it for a decision, which makes it shut its bridge down,
shutting the bridge down once more, and starting the library again. -/
def restartingSteps : List Step :=
  [.bridge .own (.startFrom "/library" default), .bridge .own (.decideBlock default),
    .bridge .own .shutdown, .bridge .own (.startFrom "/library" default)]

/-- The run of these steps. -/
def restartingRun : List Report × Host :=
  (runSteps selfStopping 1 restartingSteps).run oneLibrary

/-- Of the two loads, one has been let go by the shutdown inside the call, and the other is still
there and mapped. -/
theorem restarting_balanced :
    restartingRun.2.loader.loads = 2 ∧
      Multiset.card (releasedIn oneLibrary.bridge (timelineOf [] restartingRun.1)) = 1 ∧
      (timelineOf [] restartingRun.1).countP Occurrence.isReleasing ≤ 2 ∧
      restartingRun.2.loader.isMapped "library" = true ∧
      restartingRun.2.dropping.loader.handles "library" = 0 := by
  have hbalanced : Balanced selfStopping 1 restartingSteps oneLibrary restartingRun :=
    balanced_of_run (fun name => by cases name <;> rfl) 1 restartingSteps
  have hloads : restartingRun.2.loader.loads = 2 := by decide +kernel
  have hown : restartingRun.2.own.module = some ⟨1, "/library", "library"⟩ := by decide +kernel
  have hshared : restartingRun.2.shared.module = none := by decide +kernel
  have hstart : oneLibrary.loader.loads = 0 := rfl
  have hcard := hbalanced.loads
  have hcount := hbalanced.shutdowns
  rw [hloads, hstart, Bridge.State.hasModule, Bridge.State.hasModule, hown, hshared,
    Option.isSome_some, Option.isSome_none, Bool.toNat_true, Bool.toNat_false] at hcard
  rw [hloads, hstart] at hcount
  have hfree : oneLibrary.loader.isMapped "library" = false := rfl
  have hmapped := (hbalanced.settled hfree).mpr ⟨.own, _, hown, rfl⟩
  exact ⟨hloads, by omega, by omega, hmapped, hbalanced.dropped "library"⟩

end Host
end FailOpen
