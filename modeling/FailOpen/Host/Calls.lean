import FailOpen.Host.Setup

/-!
# Calling code

How calls reach custom engines, entry points and analyzers.  A call is entered in the history of the
code before the code reacts, so code that is called again from its own callback knows of both calls.
The steps of a callback are performed by a runner that is a parameter here.
-/

namespace FailOpen
namespace Host

variable (setup : Setup) (run : Runner)

/-- Adds observations to the output of the present step. -/
def emit (observations : List (Observation Report)) : Act Unit :=
  modify (·.observe observations)

/-- Writes an event of a bridge. -/
def log (event : Bridge.Event) : Act Unit :=
  emit [.logged event]

/-- Says why no engine is available, in the log and to operators. -/
def diagnose (message : String) : Act Unit :=
  emit [.logged (.unavailable message), .printed (Bridge.operatorLine message)]

/-- Goes through a routine, and returns its answer and the reports of its steps. -/
def play {α : Type} : Routine α → Act (α × List Report)
  | .answer answer => return (answer, [])
  | .step step next => do
    let report ← run step
    let (answer, reports) ← play (next (report.map Report.result))
    return (answer, report.toList ++ reports)

/-- Lets code react to a call that has been entered in its history.  `seen` tells how its answer is
observed. -/
def react {α : Type} (party : Party) (call : Call) (seen : α → Answer) (reaction : Reaction α) :
    Act α := do
  let (answer, nested) ← match reaction with
    | .answer answer => pure (answer, none)
    | .callBack routine => do
      let (answer, reports) ← play run routine
      pure (answer, some reports)
  emit [.called party call nested (seen answer)]
  return answer

/-! ## Custom engines -/

/-- Enters a call in the history of a custom engine and returns the calls before it. -/
def enterCustom (name : String) (call : Call) : Act (List Call) :=
  modifyGet fun host =>
    let before := host.received name
    (before, { host with received := update host.received name (before ++ [call]) })

def customStartup (name : String) (args : Startup.Arguments) : Act (Outcome Bool) := do
  let call := Call.startup args.raw
  let before ← enterCustom name call
  react run (.custom name) call .verdict ((setup.custom name).startup before args)

def customBlock (name : String) (exchange : Traffic.Record.Exchange) : Act (Outcome Bool) := do
  let call := Call.block exchange
  let before ← enterCustom name call
  react run (.custom name) call .verdict ((setup.custom name).block before exchange)

def customIngest (name : String) (trace : Traffic.Record.Trace) : Act (Outcome Unit) := do
  let call := Call.ingest trace
  let before ← enterCustom name call
  react run (.custom name) call .finished ((setup.custom name).ingest before trace)

/-! ## Entry points -/

/-- Enters a call in the history of some code and returns the calls before it. -/
def enterCode (code : Code) (call : Call) : Act (List Call) :=
  modifyGet fun host =>
    let before := (host.statics code).received
    (before, host.modifyStatics code fun statics =>
      { statics with received := statics.received ++ [call] })

/-- What an entry point around an analyzer does, as observations of a host. -/
def noteObservation (code : Code) : Analyzer.Note → Observation Report
  | .reached request => .analyzed code request
  | .logged event => .analyzerLogged code event

/-- Runs an entry point around an analyzer on what its code keeps. -/
def withMemory {α : Type} (code : Code) (call : Call)
    (seen : α → Answer) (entry : Analyzer.Memory → Analyzer.Ending α) : Act α := do
  let ending := entry ((← get).statics code).toMemory
  modify (·.modifyStatics code fun statics => { statics with toMemory := ending.toMemory })
  emit (.called (.code code) call none (seen ending.answer)
    :: ending.notes.map (noteObservation code))
  return ending.answer

def entryStartup (code : Code) (args : Startup.RawArguments) : Act UInt8 := do
  let call := Call.startup args
  let before ← enterCode code call
  match setup.program code with
  | .coded entryCode => react run (.code code) call .byte (entryCode.startup before args)
  | .analyzer analyzer => withMemory code call .byte (analyzer.startupEntry · args)

def entryBlock (code : Code) (exchange : Traffic.Record.Exchange) : Act UInt8 := do
  let call := Call.block exchange
  let before ← enterCode code call
  match setup.program code with
  | .coded entryCode => react run (.code code) call .byte (entryCode.block before exchange)
  | .analyzer analyzer => withMemory code call .byte (analyzer.blockEntry · exchange)

def entryIngest (code : Code) (trace : Traffic.Record.Trace) : Act Unit := do
  let call := Call.ingest trace
  let before ← enterCode code call
  match setup.program code with
  | .coded entryCode => react run (.code code) call (fun _ => .nothing) (entryCode.ingest before trace)
  | .analyzer analyzer => withMemory code call (fun _ => .nothing) (analyzer.ingestEntry · trace)

/-! ## Engines -/

/-- Starts an engine.  A native engine has started when its entry point answers exactly one. -/
def engineStartup (engine : Engine) (args : Startup.Arguments) : Act (Outcome Bool) :=
  match engine with
  | .inert => return .returned false
  | .custom name => customStartup setup run name args
  | .native native => do
    let code ← entryStartup setup run native.code args.raw
    return .returned (code = 1)

/-- Asks an engine for a decision.  A native engine blocks on every byte but zero. -/
def engineBlock (engine : Engine) (exchange : Traffic.Record.Exchange) : Act (Outcome Bool) :=
  match engine with
  | .inert => return .returned false
  | .custom name => customBlock setup run name exchange
  | .native native => do
    let code ← entryBlock setup run native.code exchange
    return .returned (code ≠ 0)

/-- Hands a trace to an engine. -/
def engineIngest (engine : Engine) (trace : Traffic.Record.Trace) : Act (Outcome Unit) :=
  match engine with
  | .inert => return .returned ()
  | .custom name => customIngest setup run name trace
  | .native native => do
    entryIngest setup run native.code trace
    return .returned ()

end Host
end FailOpen
