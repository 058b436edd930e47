import FailOpen.Startup.Options
import FailOpen.Startup.Port

/-!
# Options from named settings

Startup options read from six named settings, each present or absent.  The first fault wins, in the
order host, key, backend port, collector port, log level.  In a process environment a value is a
byte string, and one that is not UTF-8 counts as absent.
-/

namespace FailOpen
namespace Startup

inductive LookupFault where
  | missing (name : String)
  | port (name value : String) (fault : PortFault)
  | logLevel (fault : UnknownLogLevel)
  deriving DecidableEq, Repr

def LookupFault.message : LookupFault → String
  | .missing name => "No value for " ++ name ++ ", set it in the environment"
  | .port name value fault => "Invalid " ++ name ++ ": " ++ value ++ ": " ++ fault.message
  | .logLevel fault => fault.message

/-- A setting that must be present. -/
def required (lookup : String → Option String) (name : String) : Except LookupFault String :=
  match lookup name with
  | none => .error (.missing name)
  | some value => .ok value

/-- A port setting that may be absent. -/
def optionalPort (lookup : String → Option String) (name : String) :
    Except LookupFault (Option UInt16) :=
  match lookup name with
  | none => .ok none
  | some value => (Port.parse value).mapError (.port name value) |>.map some

/-- Options that a lookup of named settings yields. -/
def Options.ofLookup (lookup : String → Option String) : Except LookupFault Options := do
  let url ← required lookup "METLO_HOST"
  let apiKey ← required lookup "METLO_KEY"
  let backendPort ← optionalPort lookup "BACKEND_PORT"
  let collectorPort ← optionalPort lookup "COLLECTOR_PORT"
  let base : Options := { url, apiKey }
  let options : Options := {
    base with
    backendPort
    collectorPort := collectorPort.getD base.collectorPort
    logLevel := (lookup "LOG_LEVEL").getD base.logLevel
    encryptionKey := (lookup "METLO_ENCRYPTION_KEY").getD base.encryptionKey }
  match options.logLevelFault? with
  | none => return options
  | some fault => throw (.logLevel fault)

/-- Options from a process environment. -/
def Options.ofEnvironment (environment : String → Option (List UInt8)) :
    Except LookupFault Options :=
  ofLookup fun name => (environment name).bind Text.Utf8.decode?

end Startup
end FailOpen
