import FailOpen.Host.Calls
import FailOpen.Loader.Bind
import FailOpen.Loader.InstallPath

/-!
# The operations of a bridge

A startup attempt loads and binds a library, or takes a supplied engine, and calls the engine's
startup.  All of this happens outside the state of the bridge: the outcome is published in one
replacement at the end, and whatever it replaces is let go afterwards.  A decision or an ingestion
takes the engine of the present state, holds it for the length of the call, and writes nothing.

Attempts and disabling wait for each other by a lock that is not modelled: an engine must not attempt
a startup or disable the bridge from inside its own startup.
-/

namespace FailOpen
namespace Host

variable (setup : Setup) (run : Runner)

/-! ## Holding modules -/

/-- One more holder of a module, if there is one. -/
def retain (module : Option Loader.Module) : Act Unit :=
  match module with
  | none => pure ()
  | some module => modify fun host => { host with loader := host.loader.retain module }

/-- One holder of a module less, if there is one. -/
def release (module : Option Loader.Module) : Act Unit :=
  match module with
  | none => pure ()
  | some module => modify fun host => { host with loader := host.loader.release module }

/-- Lets go of everything that a state holds: its module, and its engine with the module of that. -/
def discard (state : Bridge.State) : Act Unit := do
  release state.engine.module?
  release state.module

/-! ## Startup attempts -/

/-- Calls the startup of an engine and returns the state that the attempt leads to.  The engine and
the module are held by the attempt; what the state does not take over is let go. -/
def startWith (engine : Engine) (module : Option Loader.Module) (args : Startup.Arguments) :
    Act Bridge.State := do
  match ← engineStartup setup run engine args with
  | .returned true =>
    log (.initialized engine.name)
    return ⟨.initialized, engine, module⟩
  | .returned false =>
    log (.startupRejected engine.name)
    release engine.module?
    return .disabled .startupRejected module
  | .panicked =>
    log (.startupPanicked engine.name)
    release engine.module?
    return .disabled .startupPanicked module

/-- Makes an engine of a loaded module and starts it.  The module is kept even if it lacks an entry
point, and then none of its entry points is called. -/
def bindModule (module : Loader.Module) (args : Startup.Arguments) : Act Bridge.State := do
  retain (some module)
  let finds := (setup.library module.file).finds
  match (← get).loader.unresolved? finds module with
  | some missing =>
    release (some module)
    diagnose missing.message
    return .disabled (.missingEntryPoint missing.entryPoint.symbol) (some module)
  | none =>
    startWith setup run (.native ⟨.image module.file, some module⟩) (some module) args

/-- Loads the library at a path and starts the engine in it. -/
def loadAndStart (path : String) (args : Startup.Arguments) : Act Bridge.State := do
  match (← get).loader.load path with
  | .error fault =>
    diagnose ("Error loading dynamic library: " ++ fault.message)
    return .disabled .loadFailed none
  | .ok (module, loader) =>
    modify ({ · with loader })
    log (.libraryMapped path)
    log (.libraryLoaded path)
    bindModule setup run module args

/-- Replaces the state of a bridge, then lets go of the old one. -/
def replaceState (name : BridgeName) (next : Bridge.State) : Act Bridge.State := do
  let previous := (← get).bridge name
  modify (·.setBridge name next)
  discard previous
  return previous

/-- Publishes the outcome of an attempt, and returns whether the bridge is initialized by it. -/
def publish (name : BridgeName) (next : Bridge.State) : Act Bool := do
  let _ ← replaceState name next
  return next.isInitialized

/-- Loads the library at a path and starts the engine in it. -/
def startFrom (name : BridgeName) (path : String) (args : Startup.Arguments) : Act Bool := do
  publish name (← loadAndStart setup run path args)

/-- Starts an engine that needs no loading. -/
def startSupplied (name : BridgeName) (engine : Engine) (args : Startup.Arguments) : Act Bool := do
  publish name (← startWith setup run engine none args)

/-- Fails a startup attempt without loading anything. -/
def disable (name : BridgeName) (reason : Bridge.Reason) : Act Unit := do
  log (.disabled reason)
  let _ ← publish name (.disabled reason none)

/-! ## Calls that are forwarded -/

/-- Asks the present engine whether to block an exchange.  A panic is a decision not to block. -/
def decideBlock (name : BridgeName) (exchange : Traffic.Record.Exchange) : Act Bool := do
  let engine := ((← get).bridge name).engine
  retain engine.module?
  let outcome ← engineBlock setup run engine exchange
  let block ← match outcome with
    | .returned block => do
      log (.decided engine.name block)
      pure block
    | .panicked => do
      log (.decisionPanicked engine.name)
      pure false
  release engine.module?
  return block

/-- Hands a trace to the present engine. -/
def ingest (name : BridgeName) (trace : Traffic.Record.Trace) : Act Unit := do
  let engine := ((← get).bridge name).engine
  retain engine.module?
  match ← engineIngest setup run engine trace with
  | .returned () => pure ()
  | .panicked => log (.ingestPanicked engine.name)
  release engine.module?

/-! ## Shutdown -/

/-- Drops the engine and the module, and returns whether there was a module. -/
def shutdown (name : BridgeName) : Act Bool := do
  let previous ← replaceState name .unloaded
  if previous.hasModule then
    log .released
  return previous.hasModule

/-- Performs an operation of a bridge. -/
def operate (name : BridgeName) : Operation → Act Result
  | .startInstalled args => .flag <$> startFrom setup run name Loader.installPath args
  | .startFrom path args => .flag <$> startFrom setup run name path args
  | .startSupplied engine args => .flag <$> startSupplied setup run name (setup.engine engine) args
  | .disable reason => do
    disable name reason
    return .done
  | .decideBlock exchange => .flag <$> decideBlock setup run name exchange
  | .ingest trace => do
    ingest setup run name trace
    return .done
  | .shutdown => .flag <$> shutdown name

end Host
end FailOpen
