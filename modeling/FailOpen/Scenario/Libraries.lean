import FailOpen.Host.Setup
import FailOpen.Scenario.Analyzers
import FailOpen.Scenario.SystemLibraries

/-!
# Stock libraries

The files that scenarios load.  Some contain the fixture behind entry points that share its slot;
once mapped they stay mapped.  Others have entry points that answer with bytes taken from the ports
they are given, keep nothing, and are mapped exactly as long as someone holds them.  Either sort may
lack entry points.  The remaining files cannot be loaded.

The first sort is built over the bridge and exports its functions as well, and it needs libraries of
the system, whose names are found through it; the second sort needs none and has only names of its
own.
-/

namespace FailOpen
namespace Scenario

open Host (Library EntryCode)

inductive Stock where
  /-- The fixture, without the given entry points. -/
  | fixture (omitted : List EntryPoint)
  /-- Entry points that answer with ports, without the given ones. -/
  | ports (omitted : List EntryPoint)
  | missing
  | directory
  | short
  | foreign
  deriving DecidableEq, Repr

/-- The symbol that every stock library exports besides its entry points. -/
def ingestedSymbol : String := "metlo_test_ingested"

/-- The names of the functions that the bridge exports to hosts in other languages. -/
def bridgeSymbols : List String :=
  ["Metlo_startup", "Metlo_block_trace", "Metlo_ingest_trace", "Metlo_cleanup"]

/-- Answers a startup with the low byte of the backend port, and an exchange with the low byte of
its destination port. -/
def portCode : EntryCode where
  startup _ args := .answer args.backendPort.toUInt8
  block _ exchange := .answer exchange.origin.destinationPort.toUInt8
  ingest _ _ := .answer ()

namespace Stock

/-- The names that a library without some entry points exports itself. -/
def exports (omitted : List EntryPoint) : List String :=
  (EntryPoint.all.filter (· ∉ omitted)).map EntryPoint.symbol ++ [ingestedSymbol]

/-- The library in a file, if it can be loaded. -/
def library? : Stock → Option Library
  | .fixture omitted =>
    some {
      exports := exports omitted ++ bridgeSymbols
      needed := runtimeFinds
      program := .analyzer Scenario.fixture }
  | .ports omitted => some { exports := exports omitted, program := .coded portCode }
  | _ => none

/-- What is stored in a file, if anything is. -/
def contents? (stock : Stock) (file : String) : Option Loader.Contents :=
  match stock with
  | .fixture _ | .ports _ => some (.library file)
  | .missing => none
  | .directory => some .directory
  | .short => some .short
  | .foreign => some .foreign

/-- Whether a file stays mapped from its first mention on. -/
def isResident : Stock → Bool
  | .fixture _ => true
  | _ => false

end Stock
end Scenario
end FailOpen
