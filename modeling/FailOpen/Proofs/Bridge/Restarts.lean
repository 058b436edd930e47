import FailOpen.Proofs.Bridge.Handles
import FailOpen.Proofs.Bridge.Transparency

/-!
# Starting a library again

A library with an analyzer in it keeps one started instance in the data of its image.  Whether that
instance survives from one attempt to the next depends on the order in which an attempt does things:
it opens its own handle before the old state of the bridge is let go, so if that state holds a module
of the same file the image stays, and if not it has gone with the last handle and is mapped afresh.

* `Goes.of_loads` and `report_load` say what an attempt does that finds a library with all entry
  points.
* `restarted_of_run` says which image the attempt meets, and what the next attempts meet after it.
-/

namespace FailOpen
namespace Host

open Analyzer (Request)

/-- The library in the file is an analyzer with all its entry points. -/
structure Setup.Analyzes (setup : Setup) (file : String) (analyzer : Analyzer) : Prop where
  program : setup.program (.image file) = .analyzer analyzer
  complete : ∀ point : EntryPoint, (setup.library file).finds point.symbol = true

/-- The step is an attempt of the bridge to start what it finds in the file, with the given
arguments. -/
def Step.Loads (step : Step) (host : Host) (name : BridgeName) (file : String)
    (args : Startup.Arguments) : Prop :=
  ∃ operation path found, step.target? = some (name, operation) ∧
    operation.loads? = some (path, args) ∧ host.loader.locate path = .ok found ∧ found.file = file

variable {setup : Setup} {file : String} {analyzer : Analyzer} {run : Runner} {host : Host}
  {step : Step} {name : BridgeName} {args : Startup.Arguments}

/-! ## One attempt -/

theorem firstUnresolved?_of_complete {loader : Loader} {finds : String → Bool}
    {module : Loader.Module} (hfinds : ∀ point : EntryPoint, finds point.symbol = true)
    (points : List EntryPoint) : loader.firstUnresolved? finds module points = none := by
  induction points with
  | nil => rfl
  | cons point points ih =>
    rw [Loader.firstUnresolved?, Loader.findSymbol_of_finds (hfinds point)]
    exact ih

/-- An attempt that finds a library with all entry points starts the engine in it. -/
theorem Goes.of_loads {operation : Operation} {course : Course}
    (hgoes : Goes setup host name operation course) {path : String}
    (hloads : operation.loads? = some (path, args)) {module : Loader.Module} {loader : Loader}
    (hload : host.loader.load path = .ok (module, loader))
    (hcomplete : ∀ point : EntryPoint, (setup.library module.file).finds point.symbol = true) :
    ∃ visit, course = .reach (.attempt name (engineIn module) (some module)) visit ∧
      visitOf setup ((host.loaded path loader).holding (some module)) (engineIn module)
        (.startup args) = some visit := by
  have hunresolved : ((host.loaded path loader).holding (some module)).loader.unresolved?
      (setup.library module.file).finds module = none := firstUnresolved?_of_complete hcomplete _
  obtain ⟨visit, hvisit⟩ : ∃ visit, visitOf setup ((host.loaded path loader).holding (some module))
      (engineIn module) (.startup args) = some visit := ⟨_, rfl⟩
  exact ⟨visit, hgoes.unique (.startsLoaded hloads hload hunresolved hvisit), hvisit⟩

theorem isInitialized_attemptState (b : Bool) (engine : Engine) (module : Option Loader.Module) :
    (attemptState (.returned b) engine module).isInitialized = b := by
  cases b <;> rfl

theorem load_of_locate {loader : Loader} {path : String} {found : Loader.Found}
    (hlocate : loader.locate path = .ok found) :
    loader.load path = .ok (⟨loader.loads, path, found.file⟩, loader.hold found) := by
  simp [Loader.load, hlocate]

/-- What an attempt shows and leaves behind that loads an analyzer.  The startup entry point finds the
data of the file as they are before the attempt, fresh ones if the file is not mapped. -/
theorem report_load (hanalyzes : setup.Analyzes file analyzer) (hrun : Tracks setup run)
    (hkeeps : Keeps run) {base : Loader} {around : Multiset Loader.Module}
    (haccounted : host.Accounted base around) (hstep : step.Loads host name file args) :
    let statics := host.loader.statics file
    let accepted := analyzer.fills statics.toMemory args.raw.config
    let demanded := Analyzer.demanded statics.slot args.raw.config
    let ran := (report setup run step).run host
    ran.1.result = step.shows accepted ∧
      (∃ path, ∀ other, ran.2.bridge other =
        if name = other then attemptState (.returned accepted)
          (engineIn ⟨host.loader.loads, path, file⟩) (some ⟨host.loader.loads, path, file⟩)
        else host.bridge other) ∧
      ran.1.contacts =
        [⟨.code (.image file), .startup args.raw, none, .byte (if accepted then 1 else 0)⟩] ∧
      ran.1.requests (.image file) = demanded ∧
      ran.2.loader.statics file =
        ⟨demanded.foldl analyzer.accept statics.toMemory,
          statics.received ++ [.startup args.raw]⟩ := by
  intro statics accepted demanded ran
  obtain ⟨operation, path, found, htarget, hloads, hlocate, rfl⟩ := hstep
  obtain ⟨course, hgoes, hperforms⟩ := exists_goes_of_target setup htarget host.beginning
  have hstart : (host.beginning.observe step.preface).Accounted base around := haccounted
  have hload : (host.beginning.observe step.preface).loader.load path =
      .ok (⟨host.loader.loads, path, found.file⟩, host.loader.hold found) := load_of_locate hlocate
  obtain ⟨visit, rfl, hvisit⟩ := hgoes.of_loads hloads hload hanalyzes.complete
  have hentry : visit = entryVisit setup _ (.image found.file) (.startup args.raw) :=
    eq_entryVisit_of_partyOf hvisit rfl
  -- the new handle is open by now, so the file is mapped
  have halive := Loader.Accounts.isMapped_of_mem (hstart.accounted_found hload)
    (Multiset.mem_add.mpr (.inl (Multiset.mem_add.mpr (.inl (Multiset.mem_add.mpr
      (.inl (Multiset.mem_singleton_self _)))))))
  obtain ⟨hplain, hnotes, hstatics⟩ :=
    entryVisit_startup hanalyzes.program halive args.raw
  obtain ⟨hvisited, hcalled⟩ := entryVisit_party setup
    (((host.beginning.observe step.preface).loaded path (host.loader.hold found)).holding
      (some ⟨host.loader.loads, path, found.file⟩)) (.image found.file) (.startup args.raw)
  rw [← hentry] at hplain hnotes hstatics hvisited hcalled
  rw [statics_holding, statics_loaded hload, statics_observe, statics_beginning]
    at hplain hnotes hstatics
  obtain ⟨hresult, hbridge, hcontacts⟩ := report_of_attempt hrun hgoes (hperforms run) hplain
  obtain ⟨-, -, hrequests, -⟩ := report_of_reach hrun hgoes (hperforms run) hplain
  rw [hvisited, hcalled] at hcontacts
  refine ⟨hresult, ⟨path, hbridge⟩, hcontacts, (hrequests _).trans hnotes, ?_⟩
  -- the new state of the bridge holds the new module, so the data have outlived the old state
  have hpinned : Pinned (.image found.file) (ran.2.bridge name) := by
    rw [hbridge name, if_pos rfl]
    exact ⟨_, attemptState_module _ _ _, rfl⟩
  have hkept : ran.2.Alive (.image found.file) :=
    Accounted.alive (report_keeps hkeeps step haccounted) hpinned
  exact (statics_report_of_reach hrun hgoes (hperforms run) hplain _ hkept).trans hstatics

/-! ## Attempts in a run -/

/-- The number of traces among some requests. -/
def ingestions (requests : List Request) : Nat :=
  requests.countP fun
    | .ingest _ => true
    | _ => false

/-- What a filled slot counts after more requests. -/
theorem ingested_foldl_accept {memory : Analyzer.Memory} {started : Analyzer.Instance}
    (hslot : memory.slot = some started) (requests : List Request) :
    (requests.foldl analyzer.accept memory).slot.elim 0 Analyzer.Instance.ingested =
      started.ingested + ingestions requests := by
  rw [Analyzer.foldl_accept_some hslot]
  change List.countP _ (started.received ++ requests.filter Request.isHandedOver) = _
  rw [List.countP_append, List.countP_filter]
  refine congrArg (started.ingested + ·) (List.countP_congr fun request _ => ?_)
  cases request <;> simp [Request.isHandedOver]

/-- What becomes of an attempt on the file, and of the attempts after it. -/
structure Restarted (setup : Setup) (file : String) (analyzer : Analyzer) (name : BridgeName)
    (host : Host) (step : Step) (args : Startup.Arguments) (ran : Report × Host) : Prop where
  /-- The attempt finds the file mapped exactly if the bridge has a module of it. -/
  mapped_iff : host.loader.isMapped file ↔ Pinned (.image file) (host.bridge name)
  /-- If the file is not mapped, its data are fresh: nothing has been received, the slot is empty, and
  nothing is counted even after the attempt. -/
  fresh : ¬ Pinned (.image file) (host.bridge name) →
    host.loader.statics file = {} ∧ (ran.2.loader.statics file).ingested = 0
  /-- The attempt works on the data that it finds, and leaves a single handle. -/
  image : ran.2.loader.handles file = 1 ∧ ran.2.loader.statics file =
    ⟨(Analyzer.demanded (host.loader.statics file).slot args.raw.config).foldl analyzer.accept
        (host.loader.statics file).toMemory,
      (host.loader.statics file).received ++ [.startup args.raw]⟩
  /-- The analyzer is asked to start only if the slot is empty, and if it is filled the attempt
  succeeds without it. -/
  result : let accepted := analyzer.fills (host.loader.statics file).toMemory args.raw.config
    ran.1.result = step.shows accepted ∧ (ran.2.bridge name).isInitialized = accepted ∧
      ran.1.requests (.image file) =
        Analyzer.demanded (host.loader.statics file).slot args.raw.config
  /-- Once the attempt has succeeded there is an instance, and as long as no change of the bridge lets
  go of the file, every further attempt succeeds without asking the analyzer to start, whatever its
  arguments.  The instance keeps its configuration and all that it has received. -/
  again : (ran.2.bridge name).isInitialized → ∃ started,
    (ran.2.loader.statics file).slot = some started ∧ ∀ depth later,
      let since := (runSteps setup depth later).run ran.2
      AllPinned (.image file) name (changesOf since.1) → ∀ {step' args'},
        step'.Loads since.2 name file args' → ∀ nesting,
          let last := (report setup (calledBack setup nesting) step').run since.2
          last.1.result = step'.shows true ∧ (last.2.bridge name).isInitialized ∧
            last.1.requests (.image file) = [] ∧
            (last.2.loader.statics file).slot = some { started with
              received := started.received ++
                (requestsOf (.image file) since.1).filter Request.isHandedOver } ∧
            (last.2.loader.statics file).ingested =
              (ran.2.loader.statics file).ingested + ingestions (requestsOf (.image file) since.1)

/-- The process after an attempt on the file: the bridge holds the one module of it. -/
theorem handles_of_report_load {ran : Host} {base : Loader}
    (haccounted : ran.Accounted base 0) (hcoherent : ∀ name, Coherent setup (ran.bridge name))
    (hbase : base.isMapped file = false) {module : Loader.Module} (hfile : module.file = file)
    (hmodule : (ran.bridge name).module = some module)
    (hothers : ∀ other ≠ name, ¬ Pinned (.image file) (ran.bridge other)) :
    ran.loader.handles file = 1 := by
  rw [haccounted.handles_eq hcoherent, Loader.handles_of_not_isMapped hbase, zero_add, zero_add,
    Finset.card_eq_one]
  refine ⟨module, Finset.ext fun candidate => ?_⟩
  simp only [Loader.openedFor, Finset.mem_filter, Multiset.mem_toFinset, mem_modulesIn_iff,
    Finset.mem_singleton]
  refine ⟨?_, ?_⟩
  · rintro ⟨⟨other, hother⟩, hsame⟩
    by_cases hname : other = name
    · subst hname
      exact Option.some.inj (hother.symm.trans hmodule)
    · exact (hothers other hname ⟨candidate, hother, hsame⟩).elim
  · rintro rfl
    exact ⟨⟨name, hmodule⟩, hfile⟩

/-- An attempt that finds the slot filled succeeds without the analyzer, and changes nothing in the
slot. -/
theorem report_load_of_filled (hanalyzes : setup.Analyzes file analyzer) (hrun : Tracks setup run)
    (hkeeps : Keeps run) {base : Loader} {around : Multiset Loader.Module}
    (haccounted : host.Accounted base around) (hstep : step.Loads host name file args)
    {started : Analyzer.Instance} (hslot : (host.loader.statics file).slot = some started) :
    let ran := (report setup run step).run host
    ran.1.result = step.shows true ∧ (ran.2.bridge name).isInitialized ∧
      ran.1.requests (.image file) = [] ∧ (ran.2.loader.statics file).slot = some started := by
  obtain ⟨hresult, ⟨path, hbridge⟩, -, hrequests, hstatics⟩ :=
    report_load hanalyzes hrun hkeeps haccounted hstep
  rw [Analyzer.fills, hslot] at hresult hbridge
  rw [hslot] at hrequests hstatics
  refine ⟨hresult, ?_, hrequests, ?_⟩
  · rw [hbridge name, if_pos rfl]
    rfl
  · rw [hstatics]
    exact hslot

/-- As long as no change of the bridge lets go of the file, an instance in it outlives every run, and
the next attempt finds it. -/
theorem report_load_after_run (hanalyzes : setup.Analyzes file analyzer) {base : Loader}
    {around : Multiset Loader.Module} (haccounted : host.Accounted base around)
    (hpinned : Pinned (.image file) (host.bridge name)) {started : Analyzer.Instance}
    (hslot : (host.loader.statics file).slot = some started) (depth : Nat) (later : List Step) :
    let since := (runSteps setup depth later).run host
    AllPinned (.image file) name (changesOf since.1) → ∀ {step args},
      step.Loads since.2 name file args → ∀ nesting,
        let last := (report setup (calledBack setup nesting) step).run since.2
        last.1.result = step.shows true ∧ (last.2.bridge name).isInitialized ∧
          last.1.requests (.image file) = [] ∧
          (last.2.loader.statics file).slot = some { started with
            received := started.received ++
              (requestsOf (.image file) since.1).filter Request.isHandedOver } ∧
          (last.2.loader.statics file).ingested =
            (host.loader.statics file).ingested + ingestions (requestsOf (.image file) since.1) := by
  intro since hall step args hstep nesting last
  obtain ⟨haccounted', -, hsince⟩ :=
    memoryKept_of_run hanalyzes.program name depth later host base around haccounted hpinned hall
  change (since.2.loader.statics file).toMemory =
    List.foldl _ (host.loader.statics file).toMemory _ at hsince
  have hkept := (congrArg Analyzer.Memory.slot hsince).trans (Analyzer.foldl_accept_some hslot _)
  obtain ⟨hresult, hinitialized, hrequests, hfilled⟩ := report_load_of_filled hanalyzes
    (calledBack_tracks nesting) (calledBack_keeps setup nesting) haccounted' hstep hkept
  refine ⟨hresult, hinitialized, hrequests, hfilled, ?_⟩
  unfold Loader.Statics.ingested
  rw [hslot, hfilled, ← hkept, hsince]
  exact ingested_foldl_accept hslot _

/-- Let a run begin with unloaded bridges while the file is not mapped, and let the library in it be
an analyzer.  After any of the steps of the run, if no other bridge has a module of the file, an
attempt on the file keeps the image exactly if its bridge has one, and everything follows that
`Restarted` says. -/
theorem restarted_of_run (hanalyzes : setup.Analyzes file analyzer) {start : Host}
    (hunloaded : ∀ name, start.bridge name = .unloaded)
    (hstart : start.loader.isMapped file = false) (depth : Nat) (made : List Step)
    (hothers : ∀ other ≠ name,
      ¬ Pinned (.image file) (((runSteps setup depth made).run start).2.bridge other))
    (hstep : step.Loads ((runSteps setup depth made).run start).2 name file args) (nesting : Nat) :
    Restarted setup file analyzer name ((runSteps setup depth made).run start).2 step args
      ((report setup (calledBack setup nesting) step).run
        ((runSteps setup depth made).run start).2) := by
  have hmoment : Moment setup depth start made 0 ((runSteps setup depth made).run start).2 :=
    .last depth made start
  have haccounted : ((runSteps setup depth made).run start).2.Accounted start.loader 0 :=
    hmoment.accounted (accounted_of_unloaded hunloaded)
  have hcoherent := hmoment.coherent (coherent_of_unloaded hunloaded)
  have hiff := haccounted.isMapped_iff_pinned hcoherent hstart hothers
  revert hothers hstep haccounted hcoherent hiff
  generalize ((runSteps setup depth made).run start).2 = host
  intro hothers hstep haccounted hcoherent hiff
  obtain ⟨hresult, ⟨path, hbridge⟩, -, hrequests, hstatics⟩ :=
    report_load hanalyzes (calledBack_tracks nesting) (calledBack_keeps setup nesting) haccounted
      hstep
  have haccounted' : ((report setup (calledBack setup nesting) step).run host).2.Accounted
      start.loader 0 := report_keeps (calledBack_keeps setup nesting) step haccounted
  have hcoherent' : ∀ other, Coherent setup
      (((report setup (calledBack setup nesting) step).run host).2.bridge other) :=
    (Moment.last nesting [step] host).coherent hcoherent
  revert hresult hbridge hrequests hstatics haccounted' hcoherent'
  generalize (report setup (calledBack setup nesting) step).run host = ran
  intro hresult hbridge hrequests hstatics haccounted' hcoherent'
  have hmodule : (ran.2.bridge name).module = some ⟨host.loader.loads, path, file⟩ := by
    rw [hbridge name, if_pos rfl, attemptState_module]
  refine ⟨hiff, fun hnot => ?_, ⟨?_, hstatics⟩, ⟨hresult, ?_, hrequests⟩, fun hinitialized => ?_⟩
  · have hfresh : host.loader.statics file = {} :=
      Loader.statics_of_not_isMapped (Bool.eq_false_iff.mpr fun hmap => hnot (hiff.mp hmap))
    refine ⟨hfresh, ?_⟩
    rw [hstatics, hfresh]
    change Option.elim (if analyzer.starts [] args.raw.config then some _ else none) 0 _ = 0
    cases analyzer.starts [] args.raw.config <;> rfl
  · refine handles_of_report_load haccounted' hcoherent' hstart rfl hmodule fun other hname => ?_
    rw [hbridge other, if_neg (Ne.symm hname)]
    exact hothers other hname
  · rw [hbridge name, if_pos rfl]
    exact isInitialized_attemptState _ _ _
  · -- a startup that succeeds leaves the slot filled
    rw [hbridge name, if_pos rfl, isInitialized_attemptState] at hinitialized
    obtain ⟨started, hslot⟩ : ∃ started, (ran.2.loader.statics file).slot = some started := by
      rw [hstatics]
      exact Option.isSome_iff_exists.mp ((Analyzer.isSome_foldl_demanded _).trans hinitialized)
    exact ⟨started, hslot, fun depth later =>
      report_load_after_run hanalyzes haccounted' ⟨_, hmodule, rfl⟩ hslot depth later⟩

/-! ## A library that is started again -/

/-- Every file is a library with the same analyzer, which needs an API key. -/
def analyzing : Setup where
  library _ :=
    { exports := EntryPoint.all.map EntryPoint.symbol, program := .analyzer Scenario.fixture }

/-- Starting the library without a key. -/
def keyless : Step := .bridge .own (.startFrom "/library" default)

/-- The steps of starting the library with a key and handing it a trace. -/
def countingSteps : List Step :=
  [.bridge .own (.startFrom "/library" keyArguments), .bridge .own (.ingest default)]

/-- These steps and a shutdown. -/
def stoppingSteps : List Step :=
  countingSteps ++ [.bridge .own .shutdown]

/-- The process in which the library has been started and has counted a trace. -/
def countingHost : Host := ((runSteps analyzing 0 countingSteps).run oneLibrary).2

/-- The process after a shutdown of that. -/
def stoppedHost : Host := ((runSteps analyzing 0 stoppingSteps).run oneLibrary).2

/-- Without a key the library is started again as long as it has not been let go, and only as long
as that. -/
theorem countingHost_restarted :
    ((report analyzing (calledBack analyzing 0) keyless).run countingHost).1.result = .flag true ∧
      ((report analyzing (calledBack analyzing 0) keyless).run
        countingHost).2.loader.handles "library" = 1 ∧
      ((report analyzing (calledBack analyzing 0) keyless).run stoppedHost).1.result =
        .flag false := by
  have hanalyzes : analyzing.Analyzes "library" Scenario.fixture :=
    ⟨rfl, fun point => by cases point <;> decide⟩
  have hunloaded : ∀ name, oneLibrary.bridge name = .unloaded := fun name => by cases name <;> rfl
  have hothers : ∀ host : Host, host.shared.module = none →
      ∀ other ≠ BridgeName.own, ¬ Pinned (.image "library") (host.bridge other) := by
    intro host hnone other hne
    cases other with
    | own => exact (hne rfl).elim
    | shared => exact not_pinned_of_module hnone "library"
  have hloads : ∀ host : Host,
      (host.loader.locate "/library").toOption.map (·.file) = some "library" →
      keyless.Loads host .own "library" default := by
    intro host hfound
    obtain ⟨found, hlocate, hfile⟩ := Option.map_eq_some_iff.mp hfound
    refine ⟨_, _, found, rfl, rfl, ?_, hfile⟩
    cases hcase : host.loader.locate "/library" with
    | error fault => simp [hcase, Except.toOption] at hlocate
    | ok other => simpa [hcase, Except.toOption] using hlocate
  have hcounting : keyless.Loads ((runSteps analyzing 0 countingSteps).run oneLibrary).2 .own
      "library" default := hloads countingHost (by decide +kernel)
  have hstopped : keyless.Loads ((runSteps analyzing 0 stoppingSteps).run oneLibrary).2 .own
      "library" default := hloads stoppedHost (by decide +kernel)
  have hkept : Restarted analyzing "library" Scenario.fixture .own countingHost keyless default
      ((report analyzing (calledBack analyzing 0) keyless).run countingHost) :=
    restarted_of_run hanalyzes hunloaded rfl 0 countingSteps
      (hothers countingHost (by decide +kernel)) hcounting 0
  have hfresh : Restarted analyzing "library" Scenario.fixture .own stoppedHost keyless default
      ((report analyzing (calledBack analyzing 0) keyless).run stoppedHost) :=
    restarted_of_run hanalyzes hunloaded rfl 0 stoppingSteps
      (hothers stoppedHost (by decide +kernel)) hstopped 0
  have hslot : (countingHost.loader.statics "library").slot.isSome := by decide +kernel
  have hempty : (stoppedHost.loader.statics "library").slot = none := by decide +kernel
  obtain ⟨hsucceeds, -⟩ := hkept.result
  obtain ⟨hfails, -⟩ := hfresh.result
  rw [Analyzer.fills, hslot] at hsucceeds
  rw [Analyzer.fills, hempty] at hfails
  exact ⟨hsucceeds, hkept.image.1, hfails⟩

end Host
end FailOpen
