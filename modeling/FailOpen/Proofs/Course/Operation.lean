import FailOpen.Proofs.Course.Visit

/-!
# The course of an operation

An operation of a bridge goes one of three ways.  It ends without reaching any code and without
touching a bridge; or it replaces the state of its bridge without reaching any code; or it reaches
the code of exactly one engine, and what remains to be done after that call is fixed by the answer.
A `Course` is one of these ways, with everything in it that does not depend on the steps made inside
the call.

* `Goes` lists the ways of every operation, each with the conditions under which it is taken.
* `exists_goes` says that every operation goes one of them: it ends as `Course.finish` says, whoever
  performs the steps of the callback.  `Goes.unique` says that it goes no other.

Invariants are proved for the courses in `Goes`, so the operations themselves are opened only here.
-/

namespace FailOpen
namespace Host

/-! ## Holders and replacements -/

/-- The process with one more holder of a module, if there is one. -/
def holding (host : Host) (module : Option Loader.Module) : Host :=
  match module with
  | none => host
  | some module => { host with loader := host.loader.retain module }

/-- The process with one holder of a module less, if there is one. -/
def lettingGo (host : Host) (module : Option Loader.Module) : Host :=
  match module with
  | none => host
  | some module => { host with loader := host.loader.release module }

/-- The process with the state of a bridge replaced, and the old state let go. -/
def replacing (host : Host) (name : BridgeName) (next : Bridge.State) : Host :=
  ((host.setBridge name next).lettingGo (host.bridge name).engine.module?).lettingGo
    (host.bridge name).module

theorem retain_run (module : Option Loader.Module) (host : Host) :
    (retain module).run host = ((), host.holding module) := by
  cases module <;> rfl

theorem release_run (module : Option Loader.Module) (host : Host) :
    (release module).run host = ((), host.lettingGo module) := by
  cases module <;> rfl

theorem replaceState_run (name : BridgeName) (next : Bridge.State) (host : Host) :
    (replaceState name next).run host = (host.bridge name, host.replacing name next) := by
  simp only [replaceState, discard, run_bind, run_get, run_modify, run_pure, release_run]
  rfl

theorem publish_run (name : BridgeName) (next : Bridge.State) (host : Host) :
    (publish name next).run host = (next.isInitialized, host.replacing name next) := by
  simp only [publish, run_bind, replaceState_run]
  rfl

/-! ## Courses -/

/-- What has been taken up when code is reached, and is left when the code has answered. -/
inductive Frame where
  /-- An attempt to start an engine, with the module that its library was loaded as. -/
  | attempt (name : BridgeName) (engine : Engine) (module : Option Loader.Module)
  /-- A decision of an engine. -/
  | deciding (engine : Engine)
  /-- An ingestion by an engine. -/
  | ingesting (engine : Engine)

/-- What remains to be done when the code has answered. -/
def Frame.leave (frame : Frame) (answer : Answer) (host : Host) : Host :=
  match frame with
  | .attempt name engine module =>
      match answer.startup with
      | .returned true =>
          (host.observe [.logged (.initialized engine.name)]).replacing name
            ⟨.initialized, engine, module⟩
      | .returned false =>
          ((host.observe [.logged (.startupRejected engine.name)]).lettingGo
            engine.module?).replacing name (.disabled .startupRejected module)
      | .panicked =>
          ((host.observe [.logged (.startupPanicked engine.name)]).lettingGo
            engine.module?).replacing name (.disabled .startupPanicked module)
  | .deciding engine =>
      match answer.decision with
      | .returned block =>
          (host.observe [.logged (.decided engine.name block)]).lettingGo engine.module?
      | .panicked =>
          (host.observe [.logged (.decisionPanicked engine.name)]).lettingGo engine.module?
  | .ingesting engine =>
      match answer.ingestion with
      | .returned () => host.lettingGo engine.module?
      | .panicked =>
          (host.observe [.logged (.ingestPanicked engine.name)]).lettingGo engine.module?

/-- The truth value that an operation yields when the code has answered. -/
def Frame.yields (frame : Frame) (answer : Answer) : Bool :=
  match frame with
  | .attempt _ _ _ => answer.accepts
  | .deciding _ => answer.blocks
  | .ingesting _ => false

inductive Course where
  /-- No code is reached and no bridge is touched. -/
  | pass (host : Host)
  /-- No code is reached, and a bridge gets a new state; `notes` are observed after that. -/
  | replace (name : BridgeName) (next : Bridge.State) (host : Host)
      (notes : List (Observation Report)) (result : Bool)
  /-- The code of one engine is reached. -/
  | reach (frame : Frame) (visit : Visit)

/-- The truth value that an operation yields, and the process after it. -/
def Course.finish (run : Runner) : Course → Bool × Host
  | .pass host => (false, host)
  | .replace name next host notes result => (result, (host.replacing name next).observe notes)
  | .reach frame visit =>
      (frame.yields (visit.answer run), frame.leave (visit.answer run) (visit.ending run))

variable (setup : Setup) (run : Runner)

/-- An operation that yields a truth value.  Those that have none to give yield `false`. -/
def actOf (name : BridgeName) : Operation → Act Bool
  | .startInstalled args => startFrom setup run name Loader.installPath args
  | .startFrom path args => startFrom setup run name path args
  | .startSupplied engine args => startSupplied setup run name (setup.engine engine) args
  | .disable reason => do
      disable name reason
      return false
  | .decideBlock exchange => decideBlock setup run name exchange
  | .ingest trace => do
      ingest setup run name trace
      return false
  | .shutdown => shutdown name

/-- The path that an operation loads, and the arguments that it starts the engine with. -/
def Operation.loads? : Operation → Option (String × Startup.Arguments)
  | .startInstalled args => some (Loader.installPath, args)
  | .startFrom path args => some (path, args)
  | _ => none

/-- The engine that an operation starts without loading, and the arguments for it. -/
def Operation.supplies? (setup : Setup) : Operation → Option (Engine × Startup.Arguments)
  | .startSupplied engine args => some (setup.engine engine, args)
  | _ => none

/-- A supplied engine holds no module. -/
theorem Operation.module?_of_supplies? {setup : Setup} {operation : Operation} {engine : Engine}
    {args : Startup.Arguments} (h : operation.supplies? setup = some (engine, args)) :
    engine.module? = none := by
  cases operation with
  | startSupplied name args =>
    obtain ⟨rfl, -⟩ := Prod.mk.inj (Option.some.inj h)
    exact SuppliedEngine.module?_engine (setup.supplied name)
  | _ => cases h

/-- What an operation asks of the engine that is there already. -/
def Operation.demand? : Operation → Option Demand
  | .decideBlock exchange => some (.block exchange)
  | .ingest trace => some (.ingest trace)
  | _ => none

/-- The reports that a failure makes, to the log and to operators. -/
def diagnosis (message : String) : List (Observation Report) :=
  [.logged (.unavailable message), .printed (Bridge.operatorLine message)]

/-- The process in which a library has just been loaded. -/
def loaded (host : Host) (path : String) (loader : Loader) : Host :=
  Host.observe { host with loader } [.logged (.libraryMapped path), .logged (.libraryLoaded path)]

/-- The engine in a module. -/
def engineIn (module : Loader.Module) : Engine :=
  .native ⟨.image module.file, some module⟩

/-- The frame of a demand to the engine that is there. -/
def frameOf (engine : Engine) : Demand → Frame
  | .ingest _ => .ingesting engine
  | _ => .deciding engine

/-- What is observed of a demand to the inert engine. -/
def unheard : Demand → List (Observation Report)
  | .ingest _ => []
  | _ => [.logged (.decided Engine.inert.name false)]

/-- The ways in which an operation of a bridge goes. -/
inductive Goes (host : Host) (name : BridgeName) (operation : Operation) : Course → Prop
  | loadFails {path args fault} (hloads : operation.loads? = some (path, args))
      (hload : host.loader.load path = .error fault) :
      Goes host name operation (.replace name (.disabled .loadFailed none)
        (host.observe (diagnosis ("Error loading dynamic library: " ++ fault.message))) [] false)
  | lacks {path args module loader missing} (hloads : operation.loads? = some (path, args))
      (hload : host.loader.load path = .ok (module, loader))
      (hmissing : (((host.loaded path loader).holding (some module)).loader.unresolved?
        (setup.library module.file).finds module) = some missing) :
      Goes host name operation (.replace name
        (.disabled (.missingEntryPoint missing.entryPoint.symbol) (some module))
        ((((host.loaded path loader).holding (some module)).lettingGo (some module)).observe
          (diagnosis missing.message)) [] false)
  | startsLoaded {path args module loader visit} (hloads : operation.loads? = some (path, args))
      (hload : host.loader.load path = .ok (module, loader))
      (hcomplete : (((host.loaded path loader).holding (some module)).loader.unresolved?
        (setup.library module.file).finds module) = none)
      (hvisit : visitOf setup ((host.loaded path loader).holding (some module)) (engineIn module)
        (.startup args) = some visit) :
      Goes host name operation (.reach (.attempt name (engineIn module) (some module)) visit)
  | refuses {args} (hsupplies : operation.supplies? setup = some (.inert, args)) :
      Goes host name operation (.replace name (.disabled .startupRejected none)
        (host.observe [.logged (.startupRejected Engine.inert.name)]) [] false)
  | startsSupplied {engine args visit} (hsupplies : operation.supplies? setup = some (engine, args))
      (hvisit : visitOf setup host engine (.startup args) = some visit) :
      Goes host name operation (.reach (.attempt name engine none) visit)
  | disables {reason} (hdisable : operation = .disable reason) :
      Goes host name operation (.replace name (.disabled reason none)
        (host.observe [.logged (.disabled reason)]) [] false)
  | unheard {demand} (hdemand : operation.demand? = some demand)
      (hengine : (host.bridge name).engine = .inert) :
      Goes host name operation (.pass (host.observe (unheard demand)))
  | forwards {engine demand visit} (hdemand : operation.demand? = some demand)
      (hengine : (host.bridge name).engine = engine)
      (hvisit : visitOf setup (host.holding engine.module?) engine demand = some visit) :
      Goes host name operation (.reach (frameOf engine demand) visit)
  | shutsDown (hshutdown : operation = .shutdown) :
      Goes host name operation (.replace name .unloaded host
        (if (host.bridge name).hasModule then [.logged .released] else [])
        (host.bridge name).hasModule)

/-! ## Every operation goes one of these ways -/

@[simp] theorem observe_nil (host : Host) : host.observe [] = host := by
  simp [observe]

theorem observe_observe (host : Host) (first second : List (Observation Report)) :
    (host.observe first).observe second = host.observe (first ++ second) := by
  simp [observe, List.append_assoc]

theorem visitOf_eq_none_iff {host : Host} {engine : Engine} {demand : Demand} :
    visitOf setup host engine demand = none ↔ engine = .inert := by
  cases engine <;> simp [visitOf]

theorem log_run (event : Bridge.Event) (host : Host) :
    (log event).run host = ((), host.observe [.logged event]) := rfl

theorem diagnose_run (message : String) (host : Host) :
    (diagnose message).run host = ((), host.observe (diagnosis message)) := rfl

/-- What an attempt publishes when the startup of its engine reaches code. -/
theorem publish_startWith_run {host : Host} {engine : Engine} {args : Startup.Arguments}
    {visit : Visit} (hvisit : visitOf setup host engine (.startup args) = some visit)
    (name : BridgeName) (module : Option Loader.Module) :
    let started := (startWith setup run engine module args).run host
    (publish name started.1).run started.2 =
      ((visit.answer run).accepts,
        (Frame.attempt name engine module).leave (visit.answer run) (visit.ending run)) := by
  simp only [startWith, run_bind, engineStartup_run, hvisit]
  unfold Answer.accepts Frame.leave
  rcases (visit.answer run).startup with started | _
  · cases started with
    | false =>
      simp only [run_bind, run_pure, log_run, release_run, publish_run]
      rfl
    | true =>
      simp only [run_bind, run_pure, log_run, publish_run]
      rfl
  · simp only [run_bind, run_pure, log_run, release_run, publish_run]
    rfl

theorem loadAndStart_run_of_load {host : Host} {path : String} {module : Loader.Module}
    {loader : Loader} (hload : host.loader.load path = .ok (module, loader))
    (args : Startup.Arguments) :
    (loadAndStart setup run path args).run host =
      (bindModule setup run module args).run (host.loaded path loader) := by
  simp only [loadAndStart, run_bind, run_get, hload, run_modify, log_run, observe_observe]
  rfl

theorem bindModule_run (module : Loader.Module) (args : Startup.Arguments) (host : Host) :
    (bindModule setup run module args).run host =
      match (host.holding (some module)).loader.unresolved?
          (setup.library module.file).finds module with
      | some missing =>
          (.disabled (.missingEntryPoint missing.entryPoint.symbol) (some module),
            ((host.holding (some module)).lettingGo (some module)).observe
              (diagnosis missing.message))
      | none =>
          (startWith setup run (engineIn module) (some module) args).run
            (host.holding (some module)) := by
  simp only [bindModule, run_bind, run_get, retain_run]
  cases (host.holding (some module)).loader.unresolved? (setup.library module.file).finds module with
  | some missing => simp only [run_bind, run_pure, release_run, diagnose_run]
  | none => rfl

/-- Loading a path and starting the engine in it goes one of three ways. -/
theorem exists_goes_of_loads {host : Host} {name : BridgeName} {operation : Operation}
    {path : String} {args : Startup.Arguments} (hloads : operation.loads? = some (path, args)) :
    ∃ course, Goes setup host name operation course ∧
      ∀ run, (startFrom setup run name path args).run host = course.finish run := by
  -- the load fails, or an entry point is missing, or the engine is started
  cases hload : host.loader.load path with
  | error fault =>
    refine ⟨_, .loadFails hloads hload, fun run => ?_⟩
    simp only [startFrom, loadAndStart, run_bind, run_get, hload, run_pure, diagnose_run,
      publish_run, Course.finish, observe_nil]
    rfl
  | ok found =>
    obtain ⟨module, loader⟩ := found
    cases hmissing : (((host.loaded path loader).holding (some module)).loader.unresolved?
        (setup.library module.file).finds module) with
    | some missing =>
      refine ⟨_, .lacks hloads hload hmissing, fun run => ?_⟩
      simp only [startFrom, run_bind, loadAndStart_run_of_load setup run hload, bindModule_run,
        hmissing, publish_run, Course.finish, observe_nil]
      rfl
    | none =>
      obtain ⟨visit, hvisit⟩ : ∃ visit, visitOf setup ((host.loaded path loader).holding
          (some module)) (engineIn module) (.startup args) = some visit := ⟨_, rfl⟩
      refine ⟨_, .startsLoaded hloads hload hmissing hvisit, fun run => ?_⟩
      simp only [startFrom, run_bind, loadAndStart_run_of_load setup run hload, bindModule_run,
        hmissing]
      exact publish_startWith_run setup run hvisit name (some module)

/-- Starting a supplied engine goes one of two ways. -/
theorem exists_goes_of_supplies {host : Host} {name : BridgeName} {operation : Operation}
    {engine : Engine} {args : Startup.Arguments}
    (hsupplies : operation.supplies? setup = some (engine, args)) :
    ∃ course, Goes setup host name operation course ∧
      ∀ run, (startSupplied setup run name engine args).run host = course.finish run := by
  cases hvisit : visitOf setup host engine (.startup args) with
  | none =>
    obtain rfl := (visitOf_eq_none_iff setup).mp hvisit
    refine ⟨_, .refuses hsupplies, fun run => ?_⟩
    simp only [startSupplied, startWith, run_bind, engineStartup_run, hvisit, log_run, release_run,
      run_pure, publish_run, Course.finish, observe_nil]
    rfl
  | some visit =>
    refine ⟨_, .startsSupplied hsupplies hvisit, fun run => ?_⟩
    simp only [startSupplied, run_bind]
    exact publish_startWith_run setup run hvisit name none

/-- Asking the present engine for a decision goes one of two ways. -/
theorem exists_goes_of_decideBlock (host : Host) (name : BridgeName)
    (exchange : Traffic.Record.Exchange) :
    ∃ course, Goes setup host name (.decideBlock exchange) course ∧
      ∀ run, (decideBlock setup run name exchange).run host = course.finish run := by
  obtain ⟨engine, hengine⟩ : ∃ engine, (host.bridge name).engine = engine := ⟨_, rfl⟩
  cases hvisit : visitOf setup (host.holding engine.module?) engine (.block exchange) with
  | none =>
    obtain rfl := (visitOf_eq_none_iff setup).mp hvisit
    refine ⟨_, .unheard rfl hengine, fun run => ?_⟩
    simp only [decideBlock, run_bind, run_get, hengine, retain_run, engineBlock_run, hvisit,
      run_pure, log_run, release_run]
    rfl
  | some visit =>
    refine ⟨_, .forwards rfl hengine hvisit, fun run => ?_⟩
    simp only [decideBlock, run_bind, run_get, hengine, retain_run, engineBlock_run, hvisit]
    change _ = ((visit.answer run).blocks, (Frame.deciding engine).leave (visit.answer run) (visit.ending run))
    unfold Answer.blocks Frame.leave
    cases (visit.answer run).decision with
    | panicked => simp only [run_bind, run_pure, log_run, release_run, reduceCtorEq, decide_false]
    | returned block =>
      simp only [run_bind, run_pure, log_run, release_run, Outcome.returned.injEq, Bool.decide_eq_true]

/-- Handing a trace to the present engine goes one of two ways. -/
theorem exists_goes_of_ingest (host : Host) (name : BridgeName) (trace : Traffic.Record.Trace) :
    ∃ course, Goes setup host name (.ingest trace) course ∧
      ∀ run, ((ingest setup run name trace).run host).2 = (course.finish run).2 ∧
        (course.finish run).1 = false := by
  obtain ⟨engine, hengine⟩ : ∃ engine, (host.bridge name).engine = engine := ⟨_, rfl⟩
  cases hvisit : visitOf setup (host.holding engine.module?) engine (.ingest trace) with
  | none =>
    obtain rfl := (visitOf_eq_none_iff setup).mp hvisit
    refine ⟨_, .unheard rfl hengine, fun run => ⟨?_, rfl⟩⟩
    simp only [ingest, run_bind, run_get, hengine, retain_run, engineIngest_run, hvisit,
      release_run]
    simp [Course.finish, unheard, holding, lettingGo, Engine.module?]
  | some visit =>
    refine ⟨_, .forwards rfl hengine hvisit, fun run => ⟨?_, rfl⟩⟩
    simp only [ingest, run_bind, run_get, hengine, retain_run, engineIngest_run, hvisit]
    change _ = (Frame.ingesting engine).leave (visit.answer run) (visit.ending run)
    unfold Frame.leave
    cases (visit.answer run).ingestion with
    | returned done => simp only [release_run]
    | panicked => simp only [run_bind, log_run, release_run]

theorem exists_goes_of_shutdown (host : Host) (name : BridgeName) :
    ∃ course, Goes setup host name .shutdown course ∧
      ∀ run, (shutdown name).run host = course.finish run := by
  refine ⟨_, .shutsDown rfl, fun run => ?_⟩
  simp only [shutdown, run_bind, replaceState_run, Course.finish]
  cases (host.bridge name).hasModule with
  | false =>
    simp only [Bool.false_eq_true, if_false, observe_nil, run_pure]
  | true =>
    simp only [if_true, run_bind, run_pure, log_run]

/-- Every operation goes one of the ways in `Goes`, and ends as its course says. -/
theorem exists_goes (host : Host) (name : BridgeName) (operation : Operation) :
    ∃ course, Goes setup host name operation course ∧
      ∀ run, (actOf setup run name operation).run host = course.finish run := by
  cases operation with
  | startInstalled args => exact exists_goes_of_loads setup rfl
  | startFrom path args => exact exists_goes_of_loads setup rfl
  | startSupplied engine args => exact exists_goes_of_supplies setup rfl
  | disable reason =>
    refine ⟨_, .disables rfl, fun run => ?_⟩
    simp only [actOf, disable, run_bind, log_run, publish_run, run_pure, Course.finish,
      observe_nil]
  | decideBlock exchange => exact exists_goes_of_decideBlock setup host name exchange
  | ingest trace =>
    obtain ⟨course, hgoes, hrun⟩ := exists_goes_of_ingest setup host name trace
    refine ⟨course, hgoes, fun run => ?_⟩
    obtain ⟨hhost, hresult⟩ := hrun run
    simp only [actOf, run_bind, run_pure, hhost, ← hresult]
  | shutdown => exact exists_goes_of_shutdown setup host name

variable {setup} in
/-- There is only one way for an operation to go. -/
theorem Goes.unique {host : Host} {name : BridgeName} {operation : Operation}
    {course other : Course} (h : Goes setup host name operation course)
    (h' : Goes setup host name operation other) : course = other := by
  -- the conditions of two ways of one operation exclude each other, or else they say the same
  cases operation <;> cases h <;> try contradiction
  all_goals
    cases h' <;> grind [Operation.loads?, Operation.supplies?, Operation.demand?, visitOf]

end Host
end FailOpen
