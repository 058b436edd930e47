import FailOpen.Engine.Basic

/-!
# The state of a bridge

A bridge is unloaded, disabled for a reason, or initialized.  Its state also holds the engine that
calls are forwarded to and the module of the last successful load, which is kept even when no engine
could be made of it.
-/

namespace FailOpen
namespace Bridge

open Text

/-- Why the last startup attempt left a bridge disabled. -/
inductive Reason where
  /-- A startup argument was null. -/
  | invalidArguments
  /-- The library could not be loaded. -/
  | loadFailed
  /-- The library lacks the entry point of this name. -/
  | missingEntryPoint (symbol : String)
  /-- The engine refused to start. -/
  | startupRejected
  /-- The engine panicked while starting. -/
  | startupPanicked
  deriving DecidableEq, Repr

def Reason.shown : Reason → String
  | .invalidArguments => "InvalidArguments"
  | .loadFailed => "LoadFailed"
  | .missingEntryPoint symbol => Shape.applied "MissingEntryPoint" (quote symbol)
  | .startupRejected => "StartupRejected"
  | .startupPanicked => "StartupPanicked"

inductive Status where
  | unloaded
  | disabled (reason : Reason)
  | initialized
  deriving DecidableEq, Repr

def Status.shown : Status → String
  | .unloaded => "Unloaded"
  | .disabled reason => Shape.applied "Disabled" reason.shown
  | .initialized => "Initialized"

structure State where
  status : Status
  engine : Engine
  module : Option Loader.Module
  deriving DecidableEq, Repr

namespace State

def unloaded : State := ⟨.unloaded, .inert, none⟩

def disabled (reason : Reason) (module : Option Loader.Module) : State :=
  ⟨.disabled reason, .inert, module⟩

instance : Inhabited State := ⟨unloaded⟩

def isInitialized (state : State) : Bool :=
  state.status = .initialized

def hasModule (state : State) : Bool :=
  state.module.isSome

/-- A bridge in this state, shown for debugging. -/
def shown (state : State) : String :=
  Shape.record "Bridge"
    [("status", state.status.shown), ("engine", quote state.engine.name),
      ("module", shownModule state.module)]

end State
end Bridge
end FailOpen
