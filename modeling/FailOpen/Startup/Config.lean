import FailOpen.Startup.Arguments

/-!
# Engine configuration

The startup arguments as an engine keeps them: owned text, read by the rules for nullable strings.
-/

namespace FailOpen
namespace Startup

open Text

structure Config where
  url : String
  apiKey : String
  /-- Zero when the host configured none. -/
  backendPort : UInt16
  collectorPort : UInt16
  logLevel : String
  encryptionKey : String
  deriving DecidableEq, Inhabited, Repr

/-- The configuration that raw arguments carry. -/
def RawArguments.config (raw : RawArguments) : Config where
  url := readText raw.url
  apiKey := readText raw.apiKey
  backendPort := raw.backendPort
  collectorPort := raw.collectorPort
  logLevel := readText raw.logLevel
  encryptionKey := readText raw.encryptionKey

/-- The configuration shown for debugging, without the two secrets. -/
def Config.shown (config : Config) : String :=
  Shape.record "EngineConfig"
    [("url", quote config.url), ("api_key", Shape.redacted),
      ("backend_port", Shape.number config.backendPort.toNat),
      ("collector_port", Shape.number config.collectorPort.toNat),
      ("log_level", quote config.logLevel), ("encryption_key", Shape.redacted)]

end Startup
end FailOpen
