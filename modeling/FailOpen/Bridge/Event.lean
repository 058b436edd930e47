import FailOpen.Analyzer.EntryPoints
import FailOpen.Bridge.State

/-!
# Events and diagnostics

What a bridge and the entry points around an analyzer write to the log, and the lines that operators
see.  Every event has a level, a message and named fields; an operator line repeats the detail of an
event that says why no engine is available.
-/

namespace FailOpen

inductive Level where
  | debug
  | info
  | warn
  deriving DecidableEq, Repr

def Level.name : Level → String
  | .debug => "DEBUG"
  | .info => "INFO"
  | .warn => "WARN"

inductive FieldValue where
  | text (s : String)
  | flag (b : Bool)
  deriving DecidableEq, Repr

/-- An event as it is written. -/
structure LogEntry where
  level : Level
  message : String
  fields : List (String × FieldValue) := []
  deriving DecidableEq, Repr

namespace Bridge

inductive Event where
  | libraryMapped (path : String)
  | libraryLoaded (path : String)
  | unavailable (detail : String)
  | initialized (engine : String)
  | startupRejected (engine : String)
  | startupPanicked (engine : String)
  | disabled (reason : Reason)
  | decided (engine : String) (block : Bool)
  | decisionPanicked (engine : String)
  | ingestPanicked (engine : String)
  | released
  | exitCleanupRegistered
  | exitCleanupFailed
  deriving DecidableEq, Repr

def Event.entry : Event → LogEntry
  | .libraryMapped path => ⟨.debug, "Engine library mapped", [("path", .text path)]⟩
  | .libraryLoaded path => ⟨.info, "Engine library loaded", [("path", .text path)]⟩
  | .unavailable detail => ⟨.warn, "Engine unavailable", [("detail", .text detail)]⟩
  | .initialized engine => ⟨.info, "Engine initialized", [("engine", .text engine)]⟩
  | .startupRejected engine => ⟨.warn, "Engine startup rejected", [("engine", .text engine)]⟩
  | .startupPanicked engine =>
    ⟨.warn, "Engine panicked during startup", [("engine", .text engine)]⟩
  | .disabled reason => ⟨.warn, "Bridge disabled", [("reason", .text reason.shown)]⟩
  | .decided engine block =>
    ⟨.debug, "Block decision", [("engine", .text engine), ("block", .flag block)]⟩
  | .decisionPanicked engine =>
    ⟨.warn, "Engine panicked during block decision", [("engine", .text engine)]⟩
  | .ingestPanicked engine =>
    ⟨.warn, "Engine panicked during trace ingestion", [("engine", .text engine)]⟩
  | .released => ⟨.info, "Engine library released", []⟩
  | .exitCleanupRegistered => ⟨.debug, "Registered engine cleanup at exit", []⟩
  | .exitCleanupFailed => ⟨.warn, "Failed to register engine cleanup at exit", []⟩

/-- What operator lines begin with. -/
def operatorMark : String := "Metlo:"

/-- The operator line of a message. -/
def operatorLine (message : String) : String :=
  operatorMark ++ " " ++ message

end Bridge

def Analyzer.Event.entry : Analyzer.Event → LogEntry
  | .started => ⟨.info, "Engine started", []⟩
  | .startupFailed reason => ⟨.warn, "Engine startup failed", [("error", .text reason)]⟩
  | .startupPanicked => ⟨.warn, "Engine panicked during startup", []⟩
  | .ingestPanicked => ⟨.warn, "Engine panicked during trace ingestion", []⟩

end FailOpen
