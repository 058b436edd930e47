import FailOpen.Proofs.Course.Step
import FailOpen.Proofs.Loader.Redacted

/-!
# A process without secrets

Steps, reports and processes hold the arguments of startups.  `redacted` removes the API keys and the
encryption keys from all of them, at every depth.  What a process does by itself commutes with the
redaction, and what it shows by itself is left alone by it.  Code is not mentioned here, because code
is handed the secrets.
-/

namespace FailOpen
namespace Host

/-! ## Steps -/

def Operation.redacted : Operation → Operation
  | .startInstalled args => .startInstalled args.redacted
  | .startFrom path args => .startFrom path args.redacted
  | .startSupplied engine args => .startSupplied engine args.redacted
  | .disable reason => .disable reason
  | .decideBlock exchange => .decideBlock exchange
  | .ingest trace => .ingest trace
  | .shutdown => .shutdown

def Exported.redacted : Exported → Exported
  | .startup args => .startup args.redacted
  | .block exchange => .block exchange
  | .ingest trace => .ingest trace
  | .cleanup => .cleanup

def Direct.redacted : Direct → Direct
  | .name => .name
  | .shown => .shown
  | .startup args => .startup args.redacted
  | .block exchange => .block exchange
  | .ingest trace => .ingest trace

def Step.redacted : Step → Step
  | .bridge name operation => .bridge name operation.redacted
  | .exported function => .exported function.redacted
  | .engine name request => .engine name request.redacted
  | .entry name call => .entry name call.redacted
  | step => step

/-! ## Reports -/

mutual

def Report.redacted : Report → Report
  | ⟨step, result, output, own, shared⟩ => ⟨step.redacted, result, redactedIn output, own, shared⟩

/-- An output without secrets. -/
def redactedIn : List (Observation Report) → List (Observation Report)
  | [] => []
  | observation :: output => observation.redacted :: redactedIn output

def Observation.redacted : Observation Report → Observation Report
  | .called party call none answer => .called party call.redacted none answer
  | .called party call (some reports) answer =>
      .called party call.redacted (some (redactedOf reports)) answer
  | .analyzed code request => .analyzed code request.redacted
  | .logged event => .logged event
  | .analyzerLogged code event => .analyzerLogged code event
  | .printed line => .printed line

/-- Some reports without secrets. -/
def redactedOf : List Report → List Report
  | [] => []
  | report :: reports => report.redacted :: redactedOf reports

end

theorem redactedIn_append (first second : List (Observation Report)) :
    redactedIn (first ++ second) = redactedIn first ++ redactedIn second := by
  induction first with
  | nil => rfl
  | cons observation first ih => rw [List.cons_append, redactedIn, ih]; rfl

/-! ## Processes -/

/-- A process without secrets. -/
def redacted (host : Host) : Host where
  own := host.own
  shared := host.shared
  loader := host.loader.redacted
  received := fun name => (host.received name).map Call.redacted
  linked := fun unit => (host.linked unit).redacted
  exitCleanup := host.exitCleanup
  exitFailures := host.exitFailures
  output := redactedIn host.output

section

variable (host : Host)

theorem bridge_redacted : host.redacted.bridge = host.bridge := by
  funext name
  cases name <;> rfl

theorem statics_redacted (code : Code) :
    host.redacted.statics code = (host.statics code).redacted := by
  cases code with
  | linked unit => rfl
  | image file => exact host.loader.statics_redacted file

theorem setBridge_redacted (name : BridgeName) (next : Bridge.State) :
    (host.setBridge name next).redacted = host.redacted.setBridge name next := by
  cases name <;> rfl

theorem observe_redacted (output : List (Observation Report)) :
    (host.observe output).redacted = host.redacted.observe (redactedIn output) := by
  unfold observe redacted
  rw [redactedIn_append]

theorem holding_redacted (module : Option Loader.Module) :
    (host.holding module).redacted = host.redacted.holding module := by
  cases module <;> rfl

theorem lettingGo_redacted (module : Option Loader.Module) :
    (host.lettingGo module).redacted = host.redacted.lettingGo module := by
  cases module with
  | none => rfl
  | some module =>
    exact congrArg (fun loader => { host.redacted with loader })
      (host.loader.release_redacted module)

theorem replacing_redacted (name : BridgeName) (next : Bridge.State) :
    (host.replacing name next).redacted = host.redacted.replacing name next := by
  unfold replacing
  rw [lettingGo_redacted, lettingGo_redacted, setBridge_redacted, bridge_redacted]

theorem beginning_redacted : host.beginning.redacted = host.redacted.beginning := rfl

theorem withDisk_redacted (disk : Loader.Disk) :
    (host.withDisk disk).redacted = host.redacted.withDisk disk := rfl

theorem loaded_redacted (path : String) (loader : Loader) :
    (host.loaded path loader).redacted = host.redacted.loaded path loader.redacted := by
  unfold loaded
  rw [observe_redacted]
  rfl

theorem receiveCustom_redacted (name : String) (call : Call) :
    (host.receiveCustom name call).redacted = host.redacted.receiveCustom name call.redacted := by
  refine congrArg (fun received => { host.redacted with received })
    ((map_update host.received name _ (List.map Call.redacted)).trans ?_)
  rw [List.map_append]
  rfl

theorem modifyStatics_redacted (code : Code) {f g : Loader.Statics → Loader.Statics}
    (h : ∀ statics, (f statics).redacted = g statics.redacted) :
    (host.modifyStatics code f).redacted = host.redacted.modifyStatics code g := by
  cases code with
  | linked unit =>
    refine congrArg (fun linked => { host.redacted with linked })
      ((map_update host.linked unit _ Loader.Statics.redacted).trans ?_)
    rw [h]
    rfl
  | image file =>
    exact congrArg (fun loader => { host.redacted with loader })
      (host.loader.modifyStatics_redacted file h)

theorem receiveCode_redacted (code : Code) (call : Call) :
    (host.receiveCode code call).redacted = host.redacted.receiveCode code call.redacted := by
  refine host.modifyStatics_redacted code fun statics => ?_
  unfold Loader.Statics.redacted
  rw [List.map_append]
  rfl

theorem remember_redacted (code : Code) (memory : Analyzer.Memory) :
    (host.modifyStatics code fun statics => { statics with toMemory := memory }).redacted =
      host.redacted.modifyStatics code fun statics =>
        { statics with toMemory := memory.redacted } :=
  host.modifyStatics_redacted code fun _ => rfl

theorem Step.isExportedStart_redacted (step : Step) :
    step.redacted.isExportedStart = step.isExportedStart := by
  cases step with
  | exported function =>
    cases function with
    | startup raw =>
      unfold redacted Exported.redacted isExportedStart
      dsimp only
      rw [raw.arguments?_redacted]
      cases raw.arguments? <;> rfl
    | _ => rfl
  | _ => rfl

theorem exitEvent?_redacted (setup : Setup) (step : Step) :
    exitEvent? setup step.redacted host.redacted = exitEvent? setup step host := by
  unfold exitEvent?
  rw [step.isExportedStart_redacted]
  rfl

theorem closing_redacted (setup : Setup) (step : Step) :
    (host.closing setup step).redacted = host.redacted.closing setup step.redacted := by
  unfold closing
  rw [exitEvent?_redacted]
  cases exitEvent? setup step host with
  | none => rfl
  | some event => exact observe_redacted _ _

theorem leave_redacted (frame : Frame) (answer : Answer) :
    (frame.leave answer host).redacted = frame.leave answer host.redacted := by
  cases frame with
  | attempt name engine module =>
    unfold Frame.leave
    rcases answer.startup with started | _
    · cases started with
      | true =>
        dsimp only
        rw [replacing_redacted, observe_redacted]
        rfl
      | false =>
        dsimp only
        rw [replacing_redacted, lettingGo_redacted, observe_redacted]
        rfl
    · dsimp only
      rw [replacing_redacted, lettingGo_redacted, observe_redacted]
      rfl
  | deciding engine =>
    unfold Frame.leave
    cases answer.decision with
    | returned block =>
      dsimp only
      rw [lettingGo_redacted, observe_redacted]
      rfl
    | panicked =>
      dsimp only
      rw [lettingGo_redacted, observe_redacted]
      rfl
  | ingesting engine =>
    unfold Frame.leave
    cases answer.ingestion with
    | returned done =>
      dsimp only
      rw [lettingGo_redacted]
    | panicked =>
      dsimp only
      rw [lettingGo_redacted, observe_redacted]
      rfl

end

/-! ## What redaction leaves of a step -/

section

variable (step : Step)

theorem Exported.operation_redacted (function : Exported) :
    function.redacted.operation = function.operation.redacted := by
  cases function with
  | startup raw =>
    unfold redacted operation
    dsimp only
    rw [raw.arguments?_redacted]
    cases raw.arguments? <;> rfl
  | _ => rfl

theorem Step.target?_redacted :
    step.redacted.target? = step.target?.map fun (name, operation) => (name, operation.redacted) := by
  cases step with
  | exported function =>
    exact congrArg (fun operation => some (BridgeName.shared, operation)) function.operation_redacted
  | _ => rfl

theorem Step.preface_redacted : step.redacted.preface = step.preface := by
  cases step with
  | exported function =>
    cases function with
    | startup raw =>
      unfold redacted Exported.redacted preface
      dsimp only
      rw [raw.arguments?_redacted]
      cases raw.arguments? <;> rfl
    | _ => rfl
  | _ => rfl

theorem Operation.shows_redacted (operation : Operation) (b : Bool) :
    operation.redacted.shows b = operation.shows b := by
  cases operation <;> rfl

theorem Step.shows_redacted (b : Bool) : step.redacted.shows b = step.shows b := by
  cases step with
  | bridge name operation => exact operation.shows_redacted b
  | exported function => cases function <;> rfl
  | _ => rfl

theorem Step.relays_redacted (answer : Answer) :
    step.redacted.relays answer = step.relays answer := by
  cases step with
  | engine name request => cases request <;> rfl
  | entry name call => cases call <;> rfl
  | _ => rfl

theorem Step.storing_redacted : step.redacted.storing = step.storing := by
  cases step <;> rfl

theorem Operation.loads?_redacted (operation : Operation) :
    operation.redacted.loads? =
      operation.loads?.map fun (path, args) => (path, args.redacted) := by
  cases operation <;> rfl

theorem Operation.supplies?_redacted (setup : Setup) (operation : Operation) :
    operation.redacted.supplies? setup =
      (operation.supplies? setup).map fun (engine, args) => (engine, args.redacted) := by
  cases operation <;> rfl

theorem Operation.demand?_redacted (operation : Operation) :
    operation.redacted.demand? = operation.demand? := by
  cases operation <;> rfl

end

end Host
end FailOpen
