import FailOpen.CString
import FailOpen.Text.Quoted
import FailOpen.Text.Shape

/-!
# Startup arguments

What an engine is started with.  `Arguments` are the six values as the bridge holds them;
`RawArguments` are the same six as they cross the boundary to an entry point, where every string is
a pointer that may be null.
-/

namespace FailOpen
namespace Startup

open Text

structure Arguments where
  url : CString
  apiKey : CString
  backendPort : UInt16
  collectorPort : UInt16
  logLevel : CString
  encryptionKey : CString
  deriving DecidableEq, Inhabited

structure RawArguments where
  url : Option Buffer := none
  apiKey : Option Buffer := none
  backendPort : UInt16 := 0
  collectorPort : UInt16 := 0
  logLevel : Option Buffer := none
  encryptionKey : Option Buffer := none
  deriving DecidableEq, Inhabited

/-- The arguments as an entry point receives them. -/
def Arguments.raw (args : Arguments) : RawArguments where
  url := some args.url.bytes
  apiKey := some args.apiKey.bytes
  backendPort := args.backendPort
  collectorPort := args.collectorPort
  logLevel := some args.logLevel.bytes
  encryptionKey := some args.encryptionKey.bytes

/-- The arguments behind four pointers, unless one of them is null. -/
def RawArguments.arguments? (raw : RawArguments) : Option Arguments :=
  match raw.url, raw.apiKey, raw.logLevel, raw.encryptionKey with
  | some url, some apiKey, some logLevel, some encryptionKey =>
    some {
      url := .ofBuffer url
      apiKey := .ofBuffer apiKey
      backendPort := raw.backendPort
      collectorPort := raw.collectorPort
      logLevel := .ofBuffer logLevel
      encryptionKey := .ofBuffer encryptionKey }
  | _, _, _, _ => none

/-- Whether one of the four pointers is null. -/
def RawArguments.hasNull (raw : RawArguments) : Bool :=
  raw.url.isNone || raw.apiKey.isNone || raw.logLevel.isNone || raw.encryptionKey.isNone

theorem RawArguments.hasNull_iff (raw : RawArguments) : raw.hasNull ↔
    raw.url = none ∨ raw.apiKey = none ∨ raw.logLevel = none ∨ raw.encryptionKey = none := by
  simp only [hasNull, Bool.or_eq_true, Option.isNone_iff_eq_none, or_assoc]

theorem RawArguments.isNone_arguments? (raw : RawArguments) :
    raw.arguments?.isNone = raw.hasNull := by
  obtain ⟨url, apiKey, backendPort, collectorPort, logLevel, encryptionKey⟩ := raw
  cases url <;> cases apiKey <;> cases logLevel <;> cases encryptionKey <;> rfl

/-- The arguments shown for debugging, without the two secrets. -/
def Arguments.shown (args : Arguments) : String :=
  Shape.record "StartupArgs"
    [("url", quoteBytes args.url.bytes), ("api_key", Shape.redacted),
      ("backend_port", Shape.number args.backendPort.toNat),
      ("collector_port", Shape.number args.collectorPort.toNat),
      ("log_level", quoteBytes args.logLevel.bytes), ("encryption_key", Shape.redacted)]

end Startup
end FailOpen
