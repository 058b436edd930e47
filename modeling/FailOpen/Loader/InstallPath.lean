import FailOpen.Loader.Disk

/-!
# Where the engine library is installed

The fixed path of the engine library, and its path below an application-data directory.  The second
is plain concatenation: no separator is put between the two parts.
-/

namespace FailOpen
namespace Loader

/-- The install path of the engine library. -/
def installPath : String := "/opt/metlo/libmetlo.so"

/-- The place that the install path leads to. -/
def installLocation : Location := ["opt", "metlo", "libmetlo.so"]

theorem ofPath_installPath : Location.ofPath installPath = installLocation := by
  decide +kernel

/-- What follows the application-data directory. -/
def appDataTail : String := "local/metlo/libmetlo.so"

/-- The library path for an application-data directory. -/
def appDataPath (appData : String) : String :=
  appData ++ appDataTail

end Loader
end FailOpen
