import FailOpen.Host.Exported

/-!
# Running a host

Performing steps and reporting them.  The steps that code makes in a callback are performed in the
same way, one level deeper; their output belongs to their own reports.  `runSteps depth` performs
callbacks up to the given depth of nesting, and callbacks below it are not performed.  A run whose
nesting is never that deep does not depend on the depth.
-/

namespace FailOpen
namespace Host

variable (setup : Setup)

/-- Asks an engine without a bridge. -/
def askEngine (run : Runner) (engine : Engine) : Direct → Act Result
  | .name => return .text engine.name
  | .shown => return .text engine.shown
  | .startup args => flag <$> engineStartup setup run engine args
  | .block exchange => flag <$> engineBlock setup run engine exchange
  | .ingest trace => do
    let _ ← engineIngest setup run engine trace
    return .done
where
  flag : Outcome Bool → Result
    | .returned b => .flag b
    | .panicked => .done

/-- Calls an entry point of a native engine; other engines have none. -/
def callEntry (run : Runner) (engine : Engine) (call : Call) : Act Result :=
  match engine, call with
  | .native native, .startup args =>
    (.number ·.toNat) <$> entryStartup setup run native.code args
  | .native native, .block exchange =>
    (.number ·.toNat) <$> entryBlock setup run native.code exchange
  | .native native, .ingest trace => do
    entryIngest setup run native.code trace
    return .done
  | _, _ => return .done

/-- Changes what is stored on disk. -/
def modifyDisk (f : Loader.Disk → Loader.Disk) : Act Unit :=
  modify fun host => { host with loader := { host.loader with disk := f host.loader.disk } }

/-- Performs a step. -/
def perform (run : Runner) : Step → Act Result
  | .bridge name operation => operate setup run name operation
  | .display name => return .text ((← get).bridge name).shown
  | .exported function => callExported setup run function
  | .engine name request => askEngine setup run (setup.engine name) request
  | .entry name call => callEntry setup run (setup.engine name) call
  | .install contents => do
    modifyDisk (·.store Loader.installLocation contents)
    return .done
  | .uninstall => do
    modifyDisk (·.remove Loader.installLocation)
    return .done
  | .isMapped file => return .flag ((← get).loader.isMapped file)
  | .ingestedByUnits units => do
    let host ← get
    return .number (units.foldl (fun count unit => count + (host.linked unit).ingested) 0)
  | .ingestedByFile file => return .number ((← get).loader.statics file).ingested
  | .refused fault => return .refused fault

/-- Performs a step and reports it. -/
def report (run : Runner) (step : Step) : Act Report := do
  let before := (← get).output
  modify ({ · with output := [] })
  let result ← perform setup run step
  let host ← get
  modify ({ · with output := before })
  return { step, result, output := host.output, own := host.own, shared := host.shared }

/-- Performs steps one after the other. -/
def reportAll (run : Runner) : List Step → Act (List Report)
  | [] => return []
  | step :: steps => do
    let first ← report setup run step
    let others ← reportAll run steps
    return first :: others

/-- Performs the steps of callbacks, which may themselves be called back from, up to a depth of
nesting. -/
def calledBack : (depth : Nat) → Runner
  | 0 => fun _ => return none
  | depth + 1 => fun step => some <$> report setup (calledBack depth) step

/-- Performs steps, and the steps of callbacks up to a depth of nesting. -/
def runSteps (depth : Nat) (steps : List Step) : Act (List Report) :=
  reportAll setup (calledBack setup depth) steps

end Host
end FailOpen
