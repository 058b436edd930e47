import FailOpen.Startup.Arguments

/-!
# Startup options

Settings that a host fills in before it starts the bridge.  They are plain text; turning them into
startup arguments fails at the first field with a NUL.
-/

namespace FailOpen
namespace Startup

open Text

/-- The log levels that engines understand. -/
def knownLogLevels : List String :=
  ["trace", "debug", "info", "warn", "error"]

/-- The backend port passed on when none is configured. -/
def noPort : UInt16 := 0

structure Options where
  url : String
  apiKey : String
  /-- Unset unless configured; the engine then picks its own. -/
  backendPort : Option UInt16 := none
  collectorPort : UInt16 := 8081
  logLevel : String := "info"
  encryptionKey : String := ""
  deriving DecidableEq, Inhabited, Repr

/-- A log level that no engine understands. -/
structure UnknownLogLevel where
  level : String
  deriving DecidableEq, Repr

def UnknownLogLevel.message (fault : UnknownLogLevel) : String :=
  "Invalid log level '" ++ fault.level ++ "', expected one of "
    ++ Shape.list (knownLogLevels.map quote)

/-- What makes the log level unusable, if anything does. -/
def Options.logLevelFault? (options : Options) : Option UnknownLogLevel :=
  if options.logLevel ∈ knownLogLevels then none else some ⟨options.logLevel⟩

/-- The settings that are passed on as strings. -/
inductive TextSetting where
  | url
  | apiKey
  | logLevel
  | encryptionKey
  deriving DecidableEq, Repr

def TextSetting.name : TextSetting → String
  | .url => "url"
  | .apiKey => "api_key"
  | .logLevel => "log_level"
  | .encryptionKey => "encryption_key"

/-- A NUL inside a setting, at a byte index. -/
structure NulFault where
  setting : TextSetting
  position : Nat
  deriving DecidableEq, Repr

def NulFault.message (fault : NulFault) : String :=
  fault.setting.name ++ " contains a NUL byte: nul byte found in provided data at position: "
    ++ fault.position.repr

/-- A setting as a C string. -/
def TextSetting.cString (setting : TextSetting) (value : String) : Except NulFault CString :=
  (CString.ofText value).mapError (⟨setting, ·⟩)

/-- The startup arguments that the options stand for. -/
def Options.arguments (options : Options) : Except NulFault Arguments := do
  let url ← TextSetting.url.cString options.url
  let apiKey ← TextSetting.apiKey.cString options.apiKey
  let logLevel ← TextSetting.logLevel.cString options.logLevel
  let encryptionKey ← TextSetting.encryptionKey.cString options.encryptionKey
  return {
    url, apiKey, logLevel, encryptionKey
    backendPort := options.backendPort.getD noPort
    collectorPort := options.collectorPort }

/-- The options shown for debugging, without the two secrets. -/
def Options.shown (options : Options) : String :=
  Shape.record "StartupOptions"
    [("url", quote options.url), ("api_key", Shape.redacted),
      ("backend_port",
        Shape.optional (options.backendPort.map fun port => Shape.number port.toNat)),
      ("collector_port", Shape.number options.collectorPort.toNat),
      ("log_level", quote options.logLevel), ("encryption_key", Shape.redacted)]

end Startup
end FailOpen
