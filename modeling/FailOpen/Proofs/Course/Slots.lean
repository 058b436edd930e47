import FailOpen.Proofs.Analyzer.Requests
import FailOpen.Proofs.Course.Holders
import FailOpen.Proofs.Loader.Statics
import FailOpen.Proofs.Timeline.Tracks

/-!
# The data of code in a process

Code with entry points has data: those of a linked unit last as long as the process, and those of a
file as long as the file is mapped.  `Alive` says that the data of some code are there.  Nothing that
an operation does to bridges and holders changes data that are still alive afterwards; only a visit
to the code itself does, and for an analyzer `Visit.Heeds` says how: its memory becomes what the
requests of the visit make of it.
-/

namespace FailOpen
namespace Host

open Analyzer (Request)

/-- The data of the code are there. -/
def Alive (host : Host) : Code → Prop
  | .linked _ => True
  | .image file => host.loader.isMapped file

/-! ## What leaves the data of code alone -/

variable {host : Host} {code : Code}

theorem alive_linked (host : Host) (unit : String) : host.Alive (.linked unit) := trivial

@[simp] theorem statics_observe (host : Host) (output : List (Observation Report)) :
    (host.observe output).statics = host.statics := by
  funext code
  cases code <;> rfl

@[simp] theorem statics_holding (host : Host) (module : Option Loader.Module) :
    (host.holding module).statics = host.statics := by
  funext code
  cases module <;> cases code <;> rfl

@[simp] theorem statics_setBridge (host : Host) (name : BridgeName) (next : Bridge.State) :
    (host.setBridge name next).statics = host.statics := by
  funext code
  cases name <;> cases code <;> rfl

@[simp] theorem statics_beginning (host : Host) : host.beginning.statics = host.statics := by
  funext code
  cases code <;> rfl

@[simp] theorem statics_withDisk (host : Host) (disk : Loader.Disk) :
    (host.withDisk disk).statics = host.statics := by
  funext code
  cases code <;> rfl

@[simp] theorem statics_receiveCustom (host : Host) (name : String) (call : Call) :
    (host.receiveCustom name call).statics = host.statics := by
  funext code
  cases code <;> rfl

theorem statics_loaded {path : String} {module : Loader.Module} {loader : Loader}
    (hload : host.loader.load path = .ok (module, loader)) :
    (host.loaded path loader).statics = host.statics := by
  funext code
  cases code with
  | linked unit => rfl
  | image file => exact Loader.statics_of_load hload file

/-- Code that is alive when a module has been let go was alive before, with the same data. -/
theorem statics_lettingGo {module : Option Loader.Module}
    (h : (host.lettingGo module).Alive code) :
    host.Alive code ∧ (host.lettingGo module).statics code = host.statics code := by
  cases module with
  | none => exact ⟨h, rfl⟩
  | some module =>
    cases code with
    | linked unit => exact ⟨trivial, rfl⟩
    | image file => exact Loader.statics_release_of_isMapped h

theorem alive_setBridge_iff {name : BridgeName} {next : Bridge.State} :
    (host.setBridge name next).Alive code ↔ host.Alive code := by
  cases code with
  | linked unit => exact Iff.rfl
  | image file => cases name <;> exact Iff.rfl

/-- Code that is alive when a state has been replaced was alive before, with the same data. -/
theorem statics_replacing {name : BridgeName} {next : Bridge.State}
    (h : (host.replacing name next).Alive code) :
    host.Alive code ∧ (host.replacing name next).statics code = host.statics code := by
  obtain ⟨hmodule, hsame⟩ := statics_lettingGo h
  obtain ⟨hengine, hsame'⟩ := statics_lettingGo hmodule
  refine ⟨alive_setBridge_iff.mp hengine, ?_⟩
  rw [replacing, hsame, hsame', statics_setBridge]

theorem alive_observe_iff {output : List (Observation Report)} :
    (host.observe output).Alive code ↔ host.Alive code := by
  cases code <;> exact Iff.rfl

@[simp] theorem statics_closing (setup : Setup) (step : Step) (host : Host) :
    (host.closing setup step).statics = host.statics := by
  funext code
  cases code with
  | linked unit => exact congrFun (linked_closing setup step host) unit
  | image file => exact congrArg (Loader.statics · file) (loader_closing setup step host)

theorem alive_closing_iff {setup : Setup} {step : Step} :
    (host.closing setup step).Alive code ↔ host.Alive code := by
  cases code with
  | linked unit => exact Iff.rfl
  | image file =>
    exact Eq.to_iff (congrArg (fun loader : Loader => loader.isMapped file = true)
      (loader_closing setup step host))

/-- Code that is alive when a call has been left was alive before, with the same data. -/
theorem Frame.statics_leave {frame : Frame} {answer : Answer}
    (h : (frame.leave answer host).Alive code) :
    host.Alive code ∧ (frame.leave answer host).statics code = host.statics code := by
  revert h
  cases frame with
  | attempt name engine module =>
    unfold leave
    -- after a failed startup the engine is let go before the state is replaced
    rcases answer.startup with started | _
    · cases started with
      | true =>
        intro h
        obtain ⟨hbefore, hsame⟩ := statics_replacing h
        exact ⟨alive_observe_iff.mp hbefore, by rw [hsame, statics_observe]⟩
      | false =>
        intro h
        obtain ⟨hbefore, hsame⟩ := statics_replacing h
        obtain ⟨hearlier, hsame'⟩ := statics_lettingGo hbefore
        exact ⟨alive_observe_iff.mp hearlier, by rw [hsame, hsame', statics_observe]⟩
    · intro h
      obtain ⟨hbefore, hsame⟩ := statics_replacing h
      obtain ⟨hearlier, hsame'⟩ := statics_lettingGo hbefore
      exact ⟨alive_observe_iff.mp hearlier, by rw [hsame, hsame', statics_observe]⟩
  | deciding engine =>
    unfold leave
    cases answer.decision <;>
    · intro h
      obtain ⟨hbefore, hsame⟩ := statics_lettingGo h
      exact ⟨alive_observe_iff.mp hbefore, by rw [hsame, statics_observe]⟩
  | ingesting engine =>
    unfold leave
    cases answer.ingestion with
    | returned done => exact statics_lettingGo
    | panicked =>
      intro h
      obtain ⟨hbefore, hsame⟩ := statics_lettingGo h
      exact ⟨alive_observe_iff.mp hbefore, by rw [hsame, statics_observe]⟩

/-! ## Visits -/

theorem statics_modifyStatics (host : Host) (code other : Code)
    (f : Loader.Statics → Loader.Statics) :
    (other ≠ code → (host.modifyStatics code f).statics other = host.statics other) ∧
      (host.Alive code → (host.modifyStatics code f).statics code = f (host.statics code)) := by
  cases code with
  | linked unit =>
    refine ⟨fun hne => ?_, fun _ => update_same _ _ _⟩
    cases other with
    | linked unit' => exact update_of_ne _ _ fun h => hne (congrArg Code.linked h)
    | image file => rfl
  | image file =>
    refine ⟨fun hne => ?_, fun halive => ?_⟩
    · cases other with
      | linked unit => rfl
      | image file' =>
        refine (Loader.statics_modifyStatics host.loader file f file').trans (if_neg ?_)
        exact fun h => hne (congrArg Code.image h.1)
    · exact (Loader.statics_modifyStatics host.loader file f file).trans (if_pos ⟨rfl, halive⟩)

theorem alive_modifyStatics_iff {other : Code} {f : Loader.Statics → Loader.Statics} :
    (host.modifyStatics code f).Alive other ↔ host.Alive other := by
  cases other with
  | linked unit => exact Iff.rfl
  | image file =>
    cases code with
    | linked unit => exact Iff.rfl
    | image file' =>
      exact Eq.to_iff (congrArg (· = true)
        (Loader.isMapped_modifyStatics host.loader file' f file))

theorem alive_entryVisit_iff {setup : Setup} {other : Code} {call : Call} :
    (entryVisit setup host other call).host.Alive code ↔ host.Alive code := by
  unfold entryVisit
  cases setup.program other with
  | coded entryCode => exact alive_modifyStatics_iff
  | analyzer analyzer => exact alive_modifyStatics_iff.trans alive_modifyStatics_iff

/-- Entering code takes no data away. -/
theorem alive_visitOf_iff {setup : Setup} {engine : Engine} {demand : Demand} {visit : Visit}
    (hvisit : visitOf setup host engine demand = some visit) :
    visit.host.Alive code ↔ host.Alive code := by
  cases engine with
  | inert => cases hvisit
  | custom name =>
    obtain rfl := Option.some.inj hvisit
    cases code <;> exact Iff.rfl
  | native native =>
    obtain rfl := Option.some.inj hvisit
    exact alive_entryVisit_iff

/-- A visit to an engine over some code is a call of an entry point of that code. -/
theorem eq_entryVisit_of_partyOf {setup : Setup} {engine : Engine} {demand : Demand} {visit : Visit}
    (hvisit : visitOf setup host engine demand = some visit)
    (hparty : partyOf engine = some (.code code)) :
    visit = entryVisit setup host code demand.call := by
  cases engine with
  | inert => cases hvisit
  | custom name => cases hparty
  | native native =>
    obtain rfl : native.code = code := by simpa [partyOf] using hparty
    exact (Option.some.inj hvisit).symm

/-- A supplied engine is not over a file. -/
theorem partyOf_engine_ne_image (setup : Setup) (name file : String) :
    partyOf (setup.engine name) ≠ some (.code (.image file)) := by
  unfold Setup.engine
  cases setup.supplied name <;> simp [SuppliedEngine.engine, partyOf]

/-- The request that is observed to reach the analyzer of some code. -/
def Observation.request? (code : Code) : Observation Report → Option Request
  | .analyzed other request => if other = code then some request else none
  | _ => none

theorem filterMap_noteObservation (code : Code) (notes : List Analyzer.Note) :
    (notes.map (noteObservation code)).filterMap (Observation.request? code) =
      notes.filterMap Analyzer.Note.request? := by
  rw [List.filterMap_map]
  refine List.filterMap_congr fun note _ => ?_
  cases note with
  | reached request => exact if_pos rfl
  | logged event => rfl

theorem filterMap_noteObservation_of_ne {other : Code} (h : other ≠ code)
    (notes : List Analyzer.Note) :
    (notes.map (noteObservation other)).filterMap (Observation.request? code) = [] := by
  rw [List.filterMap_map, List.filterMap_eq_nil_iff]
  rintro note -
  cases note with
  | reached request => exact if_neg h
  | logged event => rfl

variable {setup : Setup} {analyzer : Analyzer}

/-- Whatever call it is, the memory becomes what its requests make of it. -/
theorem analyzerEnding_memory (analyzer : Analyzer) (memory : Analyzer.Memory) (call : Call) :
    (analyzerEnding analyzer memory call).toMemory =
      (analyzerEnding analyzer memory call).requests.foldl analyzer.accept memory := by
  cases call with
  | startup args =>
    change (analyzer.startupEntry memory args).toMemory = _
    rw [Analyzer.startupEntry_memory, ← Analyzer.startupEntry_requests]
    rfl
  | block exchange => exact Analyzer.blockEntry_memory exchange
  | ingest trace => exact Analyzer.ingestEntry_memory trace

/-- A call of an entry point around an analyzer. -/
theorem entryVisit_of_analyzer (hprogram : setup.program code = .analyzer analyzer)
    (halive : host.Alive code) (call : Call) :
    let visit := entryVisit setup host code call
    let ending := analyzerEnding analyzer (host.statics code).toMemory call
    visit.Plain ending.answer ∧ visit.notes = ending.notes.map (noteObservation code) ∧
      visit.host.statics code = ⟨ending.toMemory, (host.statics code).received ++ [call]⟩ := by
  intro visit ending
  have hreceived : (host.receiveCode code call).statics code =
      { host.statics code with received := (host.statics code).received ++ [call] } :=
    (statics_modifyStatics host code code _).2 halive
  have halive' : (host.receiveCode code call).Alive code := alive_modifyStatics_iff.mpr halive
  have hvisit : visit =
      { party := .code code
        call
        reaction := .answer ending.answer
        notes := ending.notes.map (noteObservation code)
        host := (host.receiveCode code call).modifyStatics code fun statics =>
          { statics with toMemory := ending.toMemory } } := by
    unfold visit entryVisit
    simp only [hprogram, hreceived]
    rfl
  rw [hvisit]
  refine ⟨rfl, rfl, ?_⟩
  rw [(statics_modifyStatics _ code code _).2 halive', hreceived]

/-- A startup at an entry point around an analyzer. -/
theorem entryVisit_startup (hprogram : setup.program code = .analyzer analyzer)
    (halive : host.Alive code) (args : Startup.RawArguments) :
    let visit := entryVisit setup host code (.startup args)
    let memory := (host.statics code).toMemory
    visit.Plain (.byte (if analyzer.fills memory args.config then 1 else 0)) ∧
      visit.notes.filterMap (Observation.request? code) =
        Analyzer.demanded memory.slot args.config ∧
      visit.host.statics code =
        ⟨(Analyzer.demanded memory.slot args.config).foldl analyzer.accept memory,
          (host.statics code).received ++ [.startup args]⟩ := by
  intro visit memory
  obtain ⟨hanswer, hnotes, hstatics⟩ := entryVisit_of_analyzer hprogram halive (.startup args)
  refine ⟨?_, ?_, ?_⟩
  · rw [← Analyzer.startupEntry_answer]
    exact hanswer
  · rw [← Analyzer.startupEntry_requests, hnotes, filterMap_noteObservation]
    rfl
  · rw [← Analyzer.startupEntry_memory]
    exact hstatics

/-- A decision at an entry point around a started analyzer. -/
theorem entryVisit_block (hprogram : setup.program code = .analyzer analyzer)
    (halive : host.Alive code) {started : Analyzer.Instance}
    (hslot : (host.statics code).slot = some started) (exchange : Traffic.Record.Exchange) :
    let visit := entryVisit setup host code (.block exchange)
    visit.Plain (.byte
        (if analyzer.decides (host.statics code).asked started exchange.read then 1 else 0)) ∧
      visit.notes.filterMap (Observation.request? code) = [.block exchange.read] ∧
      (visit.host.statics code).slot = some (started.receive (.block exchange.read)) := by
  intro visit
  obtain ⟨hanswer, hnotes, hstatics⟩ := entryVisit_of_analyzer hprogram halive (.block exchange)
  have hrequests : (analyzer.blockEntry (host.statics code).toMemory exchange).requests =
      [.block exchange.read] := by
    rw [Analyzer.blockEntry_requests, hslot]
    rfl
  refine ⟨?_, ?_, ?_⟩
  · rw [← Analyzer.blockEntry_answer hslot]
    exact hanswer
  · rw [hnotes, filterMap_noteObservation]
    exact hrequests
  · rw [hstatics]
    change (analyzer.blockEntry (host.statics code).toMemory exchange).slot = _
    rw [Analyzer.blockEntry_memory, hrequests, Analyzer.foldl_accept_some hslot]
    rfl

/-- An ingestion at an entry point around a started analyzer. -/
theorem entryVisit_ingest (hprogram : setup.program code = .analyzer analyzer)
    (halive : host.Alive code) {started : Analyzer.Instance}
    (hslot : (host.statics code).slot = some started) (trace : Traffic.Record.Trace) :
    let visit := entryVisit setup host code (.ingest trace)
    visit.Plain .nothing ∧
      visit.notes.filterMap (Observation.request? code) = [.ingest trace.read] ∧
      (visit.host.statics code).slot = some (started.receive (.ingest trace.read)) := by
  intro visit
  obtain ⟨hanswer, hnotes, hstatics⟩ := entryVisit_of_analyzer hprogram halive (.ingest trace)
  have hrequests : (analyzer.ingestEntry (host.statics code).toMemory trace).requests =
      [.ingest trace.read] := by
    rw [Analyzer.ingestEntry_requests, hslot]
    rfl
  refine ⟨hanswer, ?_, ?_⟩
  · rw [hnotes, filterMap_noteObservation]
    exact hrequests
  · rw [hstatics]
    change (analyzer.ingestEntry (host.statics code).toMemory trace).slot = _
    rw [Analyzer.ingestEntry_memory, hrequests, Analyzer.foldl_accept_some hslot]
    rfl

/-- The byte for a truth value is taken as that truth value, by both of its readers. -/
theorem byte_answer (b : Bool) :
    (Answer.byte (if b then 1 else 0)).startup = .returned b ∧
      (Answer.byte (if b then 1 else 0)).accepts = b ∧
        (Answer.byte (if b then 1 else 0)).blocks = b := by
  cases b <;> decide

/-- A call of an entry point changes no data but those of the code that it belongs to. -/
theorem statics_entryVisit_of_ne {other : Code} (h : other ≠ code) (call : Call) :
    (entryVisit setup host code call).host.statics other = host.statics other := by
  have hkept : ∀ (host : Host) f, (host.modifyStatics code f).statics other = host.statics other :=
    fun host f => (statics_modifyStatics host code other f).1 h
  unfold entryVisit
  cases setup.program code with
  | coded entryCode => exact hkept host _
  | analyzer analyzer => exact (hkept _ _).trans (hkept host _)

/-- A visit to an engine changes no data but those of the code that the engine leads to. -/
theorem statics_visitOf_of_ne {engine : Engine} {demand : Demand} {visit : Visit}
    (hvisit : visitOf setup host engine demand = some visit)
    (hparty : partyOf engine ≠ some (.code code)) :
    visit.host.statics code = host.statics code := by
  cases engine with
  | inert => cases hvisit
  | custom name =>
    obtain rfl := Option.some.inj hvisit
    exact congrFun (statics_receiveCustom host name demand.call) code
  | native native =>
    obtain rfl := Option.some.inj hvisit
    refine statics_entryVisit_of_ne (fun hsame => hparty ?_) demand.call
    rw [hsame]
    rfl

/-- What a visit does to the memory of an analyzer: it becomes what the requests of the visit make of
it.  If the analyzer has got any request, no steps are made inside the visit. -/
structure Visit.Heeds (visit : Visit) (code : Code) (analyzer : Analyzer) (host : Host) : Prop where
  memory : (visit.host.statics code).toMemory =
    (visit.notes.filterMap (Observation.request? code)).foldl analyzer.accept
      (host.statics code).toMemory
  once : (∃ answer, visit.Plain answer) ∨ visit.notes = []

theorem Visit.Heeds.slot {visit : Visit} (h : visit.Heeds code analyzer host) :
    (visit.host.statics code).slot =
      ((visit.notes.filterMap (Observation.request? code)).foldl analyzer.accept
        (host.statics code).toMemory).slot :=
  congrArg Analyzer.Memory.slot h.memory

theorem heeds_entryVisit (hprogram : setup.program code = .analyzer analyzer)
    (halive : host.Alive code) (other : Code) (call : Call) :
    (entryVisit setup host other call).Heeds code analyzer host := by
  by_cases hsame : code = other
  · subst hsame
    obtain ⟨hanswer, hnotes, hstatics⟩ := entryVisit_of_analyzer hprogram halive call
    refine ⟨?_, .inl ⟨_, hanswer⟩⟩
    rw [hstatics, hnotes, filterMap_noteObservation]
    exact analyzerEnding_memory analyzer _ call
  · have hstatics : (entryVisit setup host other call).host.statics code = host.statics code :=
      statics_entryVisit_of_ne hsame call
    refine ⟨?_, ?_⟩
    · rw [hstatics]
      unfold entryVisit
      cases setup.program other with
      | coded entryCode => rfl
      | analyzer analyzer' => rw [filterMap_noteObservation_of_ne (Ne.symm hsame)]; rfl
    · unfold entryVisit
      cases setup.program other with
      | coded entryCode => exact .inr rfl
      | analyzer analyzer' => exact .inl ⟨_, rfl⟩

theorem heeds_visitOf (hprogram : setup.program code = .analyzer analyzer)
    (halive : host.Alive code) {engine : Engine} {demand : Demand} {visit : Visit}
    (hvisit : visitOf setup host engine demand = some visit) : visit.Heeds code analyzer host := by
  cases engine with
  | inert => cases hvisit
  | custom name =>
    obtain rfl := Option.some.inj hvisit
    exact ⟨congrArg Loader.Statics.toMemory (congrFun (statics_receiveCustom host name _) code),
      .inr rfl⟩
  | native native =>
    obtain rfl := Option.some.inj hvisit
    exact heeds_entryVisit hprogram halive native.code demand.call

theorem heeds_directVisit (hprogram : setup.program code = .analyzer analyzer)
    (halive : host.Alive code) {step : Step} {visit : Visit}
    (hvisit : step.directVisit? setup host = some visit) : visit.Heeds code analyzer host := by
  rcases visit_of_directVisit? setup hvisit with ⟨engine, demand, hvisit⟩ | ⟨other, call, rfl⟩
  · exact heeds_visitOf hprogram halive hvisit
  · exact heeds_entryVisit hprogram halive other call

end Host
end FailOpen
