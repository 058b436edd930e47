import FailOpen.Host.Bridge

/-!
# Exported functions

The functions through which hosts in other languages use the shared bridge.  They answer with bytes.
A startup with a null string starts nothing and disables the bridge; any other startup uses the
fixed install path and passes its strings on as they are.  As soon as a startup leaves a library with
the bridge, the process registers its cleanup at exit, and it does so once.

Two things happen outside of any step and are left out.  A startup installs a subscriber for the log,
which decides where events are written and not which events there are; and the registered cleanup is
called when the process exits, after its last step.
-/

namespace FailOpen
namespace Host

variable (setup : Setup) (run : Runner)

/-- A truth value as a byte. -/
def byteOfBool (b : Bool) : UInt8 :=
  if b then 1 else 0

/-- If the shared bridge has a library, has the bridge cleaned up at exit, unless that has been seen
to already. -/
def registerExitCleanup : Act Unit := do
  let host ← get
  if host.shared.hasModule ∧ ¬ host.exitCleanup then
    if setup.registersAtExit host.exitFailures then
      modify ({ · with exitCleanup := true })
      log .exitCleanupRegistered
    else
      modify ({ · with exitFailures := host.exitFailures + 1 })
      log .exitCleanupFailed

def exportedStartup (raw : Startup.RawArguments) : Act UInt8 := do
  match raw.arguments? with
  | none =>
    diagnose "Error starting up: null startup argument"
    disable .shared .invalidArguments
    return byteOfBool false
  | some args =>
    let started ← startFrom setup run .shared Loader.installPath args
    registerExitCleanup setup
    return byteOfBool started

def exportedBlock (exchange : Traffic.Record.Exchange) : Act UInt8 :=
  byteOfBool <$> decideBlock setup run .shared exchange

def exportedIngest (trace : Traffic.Record.Trace) : Act Unit :=
  ingest setup run .shared trace

def exportedCleanup : Act Unit := do
  let _ ← shutdown .shared

/-- Calls an exported function. -/
def callExported : Exported → Act Result
  | .startup raw => (.number ·.toNat) <$> exportedStartup setup run raw
  | .block exchange => (.number ·.toNat) <$> exportedBlock setup run exchange
  | .ingest trace => do
    exportedIngest setup run trace
    return .done
  | .cleanup => do
    exportedCleanup
    return .done

end Host
end FailOpen
