import FailOpen.Proofs.Course.Operation

/-!
# The course of a step

A step of a host is an operation of a bridge, or it calls code without a bridge, or it does neither
and leaves both bridges as they are.  An exported function is an operation of the shared bridge: a
startup with a null string is a disabling, and a line for operators stands before it; any other
startup may see to the cleanup at exit when it is over, which no bridge takes part in.

* `exists_goes_of_target`, `perform_of_directVisit` and `perform_of_aside` say how a step of each
  sort is performed, whoever makes the steps inside it.
* `Step.asks?` singles out the steps that are forwarded to the engine of a bridge.
-/

namespace FailOpen

/-- Whether an event says what has become of the cleanup at exit. -/
def Bridge.Event.isExit : Bridge.Event → Bool
  | .exitCleanupRegistered | .exitCleanupFailed => true
  | _ => false

namespace Host

/-! ## Steps that are operations of a bridge -/

/-- The operation of the shared bridge that an exported function is. -/
def Exported.operation : Exported → Operation
  | .startup raw =>
      match raw.arguments? with
      | none => .disable .invalidArguments
      | some args => .startInstalled args
  | .block exchange => .decideBlock exchange
  | .ingest trace => .ingest trace
  | .cleanup => .shutdown

/-- The bridge that a step works on, and the operation that it is. -/
def Step.target? : Step → Option (BridgeName × Operation)
  | .bridge name operation => some (name, operation)
  | .exported function => some (.shared, function.operation)
  | _ => none

/-- What is observed before the operation. -/
def Step.preface : Step → List (Observation Report)
  | .exported (.startup raw) =>
      match raw.arguments? with
      | none => diagnosis "Error starting up: null startup argument"
      | some _ => []
  | _ => []

/-- Whether the step is an exported startup with all its strings. -/
def Step.isExportedStart : Step → Bool
  | .exported (.startup raw) => raw.arguments?.isSome
  | _ => false

/-- The event about the cleanup at exit that a step ends with, if it sees to that. -/
def exitEvent? (setup : Setup) (step : Step) (host : Host) : Option Bridge.Event :=
  if step.isExportedStart ∧ host.shared.hasModule ∧ ¬ host.exitCleanup then
    some (if setup.registersAtExit host.exitFailures then .exitCleanupRegistered
      else .exitCleanupFailed)
  else none

theorem of_exitEvent? {setup : Setup} {step : Step} {host : Host} {event : Bridge.Event}
    (h : exitEvent? setup step host = some event) :
    step.isExportedStart ∧ event.isExit ∧ host.shared.hasModule := by
  unfold exitEvent? at h
  split at h
  · rename_i hdue
    obtain rfl := Option.some.inj h
    refine ⟨hdue.1, ?_, hdue.2.1⟩
    split <;> rfl
  · cases h

/-- The process when the step has seen to the cleanup at exit. -/
def closing (setup : Setup) (step : Step) (host : Host) : Host :=
  match exitEvent? setup step host with
  | none => host
  | some event =>
      Host.observe { host with
        exitCleanup := setup.registersAtExit host.exitFailures
        exitFailures :=
          if setup.registersAtExit host.exitFailures then host.exitFailures
          else host.exitFailures + 1 } [.logged event]

/-- The bridge that a step asks for a decision or hands a trace to, and the call that its engine is
to receive. -/
def Step.asks? (step : Step) : Option (BridgeName × Call) :=
  step.target?.bind fun (name, operation) =>
    operation.demand?.map fun demand => (name, demand.call)

theorem Step.demand_of_asks? {step : Step} {name : BridgeName} {call : Call}
    (h : step.asks? = some (name, call)) :
    ∃ operation demand, step.target? = some (name, operation) ∧
      operation.demand? = some demand ∧ demand.call = call := by
  obtain ⟨⟨name', operation⟩, htarget, hmap⟩ := Option.bind_eq_some_iff.mp h
  obtain ⟨demand, hdemand, hpair⟩ := Option.map_eq_some_iff.mp hmap
  obtain ⟨rfl, rfl⟩ := Prod.mk.inj hpair
  exact ⟨operation, demand, htarget, hdemand, rfl⟩

/-- The result of an operation that yields a truth value. -/
def Operation.shows (operation : Operation) (b : Bool) : Result :=
  match operation with
  | .disable _ | .ingest _ => .done
  | _ => .flag b

/-- The result of an exported function that yields a truth value. -/
def Exported.shows (function : Exported) (b : Bool) : Result :=
  match function with
  | .ingest _ | .cleanup => .done
  | _ => .number (byteOfBool b).toNat

/-- The result by which a step shows the truth value of its operation. -/
def Step.shows (step : Step) (b : Bool) : Result :=
  match step with
  | .bridge _ operation => operation.shows b
  | .exported function => function.shows b
  | _ => .done

variable (setup : Setup) (run : Runner)

theorem operate_run (name : BridgeName) (operation : Operation) (host : Host) :
    (operate setup run name operation).run host =
      (operation.shows ((actOf setup run name operation).run host).1,
        ((actOf setup run name operation).run host).2) := by
  cases operation <;> rfl

/-! ### The cleanup at exit -/

theorem registerExitCleanup_run {step : Step} (hstart : step.isExportedStart) (host : Host) :
    (registerExitCleanup setup).run host = ((), host.closing setup step) := by
  unfold registerExitCleanup closing exitEvent?
  rw [run_bind, run_get]
  simp only [hstart, true_and]
  split
  · rename_i hdue
    have hfresh : host.exitCleanup = false := by simpa using hdue.2
    cases setup.registersAtExit host.exitFailures with
    | true => rfl
    | false => simp [log_run, hfresh]
  · rfl

/-- A step that is no exported startup does not see to the cleanup. -/
theorem closing_of_not_start {step : Step} (h : step.isExportedStart = false) (host : Host) :
    host.closing setup step = host := by
  simp [closing, exitEvent?, h]

/-- Nothing but the record of the cleanup and the output changes. -/
theorem closing_cases (step : Step) (host : Host) :
    ∃ cleanup failures, host.closing setup step =
      Host.observe { host with exitCleanup := cleanup, exitFailures := failures }
        ((exitEvent? setup step host).toList.map .logged) := by
  unfold closing
  cases exitEvent? setup step host with
  | none => exact ⟨host.exitCleanup, host.exitFailures, (observe_nil host).symm⟩
  | some event => exact ⟨_, _, rfl⟩

@[simp] theorem bridge_closing (step : Step) (host : Host) :
    (host.closing setup step).bridge = host.bridge := by
  obtain ⟨cleanup, failures, hclosing⟩ := closing_cases setup step host
  rw [hclosing]
  rfl

@[simp] theorem loader_closing (step : Step) (host : Host) :
    (host.closing setup step).loader = host.loader := by
  obtain ⟨cleanup, failures, hclosing⟩ := closing_cases setup step host
  rw [hclosing]
  rfl

@[simp] theorem received_closing (step : Step) (host : Host) :
    (host.closing setup step).received = host.received := by
  obtain ⟨cleanup, failures, hclosing⟩ := closing_cases setup step host
  rw [hclosing]
  rfl

@[simp] theorem linked_closing (step : Step) (host : Host) :
    (host.closing setup step).linked = host.linked := by
  obtain ⟨cleanup, failures, hclosing⟩ := closing_cases setup step host
  rw [hclosing]
  rfl

/-- It depends on nothing but the system whether the cleanup can be registered. -/
theorem closing_congr {setup other : Setup} (h : setup.registersAtExit = other.registersAtExit)
    (step : Step) (host : Host) : host.closing setup step = host.closing other step := by
  unfold closing exitEvent?
  rw [h]

theorem output_closing (step : Step) (host : Host) :
    (host.closing setup step).output =
      host.output ++ (exitEvent? setup step host).toList.map .logged := by
  obtain ⟨cleanup, failures, hclosing⟩ := closing_cases setup step host
  rw [hclosing]
  rfl

/-! ### Performing them -/

theorem callExported_run (function : Exported) (host : Host) :
    (callExported setup run function).run host =
      let act := actOf setup run .shared function.operation
      let start := host.observe (Step.preface (.exported function))
      (function.shows (act.run start).1, (act.run start).2.closing setup (.exported function)) := by
  cases function with
  | startup raw =>
    cases hraw : raw.arguments? with
    | none =>
      have hstart : (Step.exported (.startup raw)).isExportedStart = false := by
        simp [Step.isExportedStart, hraw]
      simp only [callExported, exportedStartup, Exported.operation, Step.preface, hraw, run_map,
        run_bind, run_pure, diagnose_run, closing_of_not_start setup hstart]
      rfl
    | some args =>
      have hstart : (Step.exported (.startup raw)).isExportedStart := by
        simp [Step.isExportedStart, hraw]
      simp only [callExported, exportedStartup, Exported.operation, Step.preface, hraw, run_map,
        run_bind, run_pure, observe_nil, registerExitCleanup_run setup hstart]
      rfl
  | block exchange =>
    simp only [callExported, exportedBlock, Step.preface, run_map, observe_nil]
    rfl
  | ingest trace =>
    simp only [callExported, exportedIngest, Step.preface, run_bind, observe_nil]
    rfl
  | cleanup =>
    simp only [callExported, exportedCleanup, Step.preface, run_bind, observe_nil]
    rfl

/-- A step that is an operation of a bridge is performed as that operation. -/
theorem perform_of_target {step : Step} {name : BridgeName} {operation : Operation}
    (htarget : step.target? = some (name, operation)) (host : Host) :
    (perform setup run step).run host =
      let act := actOf setup run name operation
      (step.shows (act.run (host.observe step.preface)).1,
        (act.run (host.observe step.preface)).2.closing setup step) := by
  cases step with
  | bridge name' operation' =>
    obtain ⟨rfl, rfl⟩ : name' = name ∧ operation' = operation := by
      simpa [Step.target?] using htarget
    simp only [perform, operate_run, Step.preface, observe_nil]
    rfl
  | exported function =>
    obtain ⟨rfl, rfl⟩ : BridgeName.shared = name ∧ function.operation = operation := by
      simpa [Step.target?] using htarget
    exact callExported_run setup run function host
  | _ => simp [Step.target?] at htarget

/-- A step that is an operation of a bridge goes one of the ways of that operation. -/
theorem exists_goes_of_target {step : Step} {name : BridgeName} {operation : Operation}
    (htarget : step.target? = some (name, operation)) (host : Host) :
    ∃ course, Goes setup (host.observe step.preface) name operation course ∧
      ∀ run, (perform setup run step).run host =
        (step.shows (course.finish run).1, (course.finish run).2.closing setup step) := by
  obtain ⟨course, hgoes, hact⟩ := exists_goes setup (host.observe step.preface) name operation
  refine ⟨course, hgoes, fun run => ?_⟩
  rw [perform_of_target setup run htarget host, ← hact run]

/-! ## Steps that call code without a bridge -/

/-- The demand that a request makes of an engine. -/
def Direct.demand? : Direct → Option Demand
  | .startup args => some (.startup args)
  | .block exchange => some (.block exchange)
  | .ingest trace => some (.ingest trace)
  | _ => none

/-- The visit that a step makes without a bridge. -/
def Step.directVisit? (host : Host) : Step → Option Visit
  | .engine name request => request.demand?.bind (visitOf setup host (setup.engine name))
  | .entry name call =>
      match setup.engine name with
      | .native native => some (entryVisit setup host native.code call)
      | _ => none
  | _ => none

/-- A visit without a bridge is a visit to an engine or to an entry point. -/
theorem visit_of_directVisit? {step : Step} {host : Host} {visit : Visit}
    (hvisit : step.directVisit? setup host = some visit) :
    (∃ engine demand, visitOf setup host engine demand = some visit) ∨
      ∃ code call, entryVisit setup host code call = visit := by
  cases step with
  | engine name request =>
    obtain ⟨demand, -, hvisit⟩ := Option.bind_eq_some_iff.mp hvisit
    exact .inl ⟨_, demand, hvisit⟩
  | entry name call =>
    cases hengine : setup.engine name with
    | native native => exact .inr ⟨_, call, by simpa [Step.directVisit?, hengine] using hvisit⟩
    | _ => simp [Step.directVisit?, hengine] at hvisit
  | _ => cases hvisit

/-- The result by which a step without a bridge shows how its call was answered. -/
def Step.relays (answer : Answer) : Step → Result
  | .engine _ (.startup _) => askEngine.flag answer.startup
  | .engine _ (.block _) => askEngine.flag answer.decision
  | .entry _ (.startup _) | .entry _ (.block _) => .number answer.code.toNat
  | _ => .done

/-- Calling code without a bridge is finishing a visit, and relaying its answer. -/
theorem perform_directVisit {step : Step} {host : Host} {visit : Visit}
    (hvisit : step.directVisit? setup host = some visit) :
    (perform setup run step).run host = (step.relays (visit.answer run), visit.ending run) := by
  cases step with
  | engine name request =>
    cases request with
    | startup args =>
      simp only [Step.directVisit?, Direct.demand?, Option.bind_some] at hvisit
      simp only [perform, askEngine, run_map, engineStartup_run, hvisit, Step.relays]
    | block exchange =>
      simp only [Step.directVisit?, Direct.demand?, Option.bind_some] at hvisit
      simp only [perform, askEngine, run_map, engineBlock_run, hvisit, Step.relays]
    | ingest trace =>
      simp only [Step.directVisit?, Direct.demand?, Option.bind_some] at hvisit
      simp only [perform, askEngine, run_bind, run_pure, engineIngest_run, hvisit, Step.relays]
    | _ => simp [Step.directVisit?, Direct.demand?] at hvisit
  | entry name call =>
    cases hengine : setup.engine name with
    | native native =>
      obtain rfl : entryVisit setup host native.code call = visit := by
        simpa [Step.directVisit?, hengine] using hvisit
      cases call with
      | startup args =>
        simp only [perform, callEntry, hengine, run_map, Step.relays,
          (entryStartup_run setup run native.code args host).2]
      | block exchange =>
        simp only [perform, callEntry, hengine, run_map, Step.relays,
          (entryBlock_run setup run native.code exchange host).2]
      | ingest trace =>
        simp only [perform, callEntry, hengine, run_bind, run_pure, entryIngest_run, Step.relays]
    | _ => simp [Step.directVisit?, hengine] at hvisit
  | _ => simp [Step.directVisit?] at hvisit

/-- Only the result depends on how the visit is answered. -/
theorem perform_of_directVisit {step : Step} {host : Host} {visit : Visit}
    (hvisit : step.directVisit? setup host = some visit) (run : Runner) :
    ∃ result, (perform setup run step).run host = (result, visit.ending run) :=
  ⟨step.relays (visit.answer run), perform_directVisit setup run hvisit⟩

/-! ## All other steps -/

/-- The process with something else stored on disk. -/
def withDisk (host : Host) (disk : Loader.Disk) : Host :=
  { host with loader := { host.loader with disk } }

/-- What a step makes of the disk. -/
def Step.storing : Step → Loader.Disk → Loader.Disk
  | .install contents, disk => disk.store Loader.installLocation contents
  | .uninstall, disk => disk.remove Loader.installLocation
  | _, disk => disk

/-- What a step reads off the process, if it is no operation and makes no visit. -/
def Step.reads (host : Host) : Step → Result
  | .display name => .text (host.bridge name).shown
  | .engine name .name => .text (setup.engine name).name
  | .engine name .shown => .text (setup.engine name).shown
  | .engine _ (.startup _) | .engine _ (.block _) => .flag false
  | .isMapped file => .flag (host.loader.isMapped file)
  | .ingestedByUnits units =>
      .number (units.foldl (fun count unit => count + (host.linked unit).ingested) 0)
  | .ingestedByFile file => .number (host.loader.statics file).ingested
  | .refused fault => .refused fault
  | _ => .done

/-- A step that is no operation and makes no visit changes nothing but the disk. -/
theorem perform_aside {step : Step} {host : Host} (htarget : step.target? = none)
    (hvisit : step.directVisit? setup host = none) :
    (perform setup run step).run host =
      (step.reads setup host, host.withDisk (step.storing host.loader.disk)) := by
  cases step with
  | bridge name operation => simp [Step.target?] at htarget
  | exported function => simp [Step.target?] at htarget
  | engine name request =>
    cases request with
    | name => rfl
    | shown => rfl
    | startup args =>
      simp only [Step.directVisit?, Direct.demand?, Option.bind_some] at hvisit
      simp only [perform, askEngine, run_map, engineStartup_run, hvisit]
      rfl
    | block exchange =>
      simp only [Step.directVisit?, Direct.demand?, Option.bind_some] at hvisit
      simp only [perform, askEngine, run_map, engineBlock_run, hvisit]
      rfl
    | ingest trace =>
      simp only [Step.directVisit?, Direct.demand?, Option.bind_some] at hvisit
      simp only [perform, askEngine, run_bind, run_pure, engineIngest_run, hvisit]
      rfl
  | entry name call =>
    cases hengine : setup.engine name with
    | native native => simp [Step.directVisit?, hengine] at hvisit
    | inert => simp only [perform, callEntry, hengine]; rfl
    | custom custom => simp only [perform, callEntry, hengine]; rfl
  | _ => rfl

/-- Nobody else has a hand in it. -/
theorem perform_of_aside {step : Step} {host : Host} (htarget : step.target? = none)
    (hvisit : step.directVisit? setup host = none) :
    ∃ result, ∀ run, (perform setup run step).run host =
      (result, host.withDisk (step.storing host.loader.disk)) :=
  ⟨step.reads setup host, fun run => perform_aside setup run htarget hvisit⟩

/-! ## Reports -/

/-- The process in which a step begins: its output is its own. -/
def beginning (host : Host) : Host :=
  { host with output := [] }

/-- A step is reported by what it makes of its beginning. -/
theorem report_run (step : Step) (host : Host) :
    (report setup run step).run host =
      let did := (perform setup run step).run host.beginning
      (⟨step, did.1, did.2.output, did.2.own, did.2.shared⟩,
        { did.2 with output := host.output }) := rfl

theorem reportAll_cons_run (step : Step) (steps : List Step) (host : Host) :
    (reportAll setup run (step :: steps)).run host =
      let first := (report setup run step).run host
      let others := (reportAll setup run steps).run first.2
      (first.1 :: others.1, others.2) := rfl

theorem runSteps_eq_reportAll (depth : Nat) :
    runSteps setup depth = reportAll setup (calledBack setup depth) := rfl

/-- Steps that are nested too deep do nothing. -/
theorem all_calledBack_zero (steps : List Step) (host : Host) :
    ((calledBack setup 0).all steps).run host = ([], host) := by
  induction steps with
  | nil => rfl
  | cons step steps ih =>
    rw [Runner.all, run_bind, run_bind, show (calledBack setup 0 step).run host = (none, host) from rfl,
      ih]
    rfl

/-- Calling back is a run that is one level less deep. -/
theorem all_calledBack_succ (depth : Nat) :
    (calledBack setup (depth + 1)).all = runSteps setup depth := by
  funext steps
  induction steps with
  | nil => rfl
  | cons step steps ih =>
    rw [Runner.all, ih]
    rfl

end Host
end FailOpen
