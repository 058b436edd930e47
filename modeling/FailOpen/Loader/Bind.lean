import FailOpen.Engine.Call
import FailOpen.Loader.Basic

/-!
# Resolving entry points

The three entry points of a module are resolved in a fixed order, and the first one that is missing
is reported.
-/

namespace FailOpen
namespace Loader

/-- An entry point that a module does not export. -/
structure Unresolved where
  entryPoint : EntryPoint
  fault : SymbolFault
  deriving DecidableEq, Repr

def Unresolved.message (missing : Unresolved) : String :=
  "Error setting up " ++ missing.entryPoint.symbol ++ ": " ++ missing.fault.message

/-- The first of the given entry points that a module lacks. -/
def firstUnresolved? (loader : Loader) (finds : String → Bool) (module : Module) :
    List EntryPoint → Option Unresolved
  | [] => none
  | point :: rest =>
    match loader.findSymbol finds module point.symbol with
    | .error fault => some ⟨point, fault⟩
    | .ok () => firstUnresolved? loader finds module rest

/-- The first entry point that a module lacks. -/
def unresolved? (loader : Loader) (finds : String → Bool) (module : Module) :
    Option Unresolved :=
  loader.firstUnresolved? finds module EntryPoint.all

end Loader
end FailOpen
