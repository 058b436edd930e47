import FailOpen.Host.Run
import FailOpen.Scenario.Libraries
import FailOpen.Scenario.Scripted
import FailOpen.Scenario.System

/-!
# Scenarios

A scenario describes a process from its start: the engines it supplies, the files it can load, and
the steps it makes.  Running it yields a report for each step and the state in which it ends.
-/

namespace FailOpen

open Host (Step Report Setup SuppliedEngine Program)
open Loader (Contents Disk Location)

namespace Scenario

/-- An engine that a scenario supplies.  Engines over an analyzer share the slot they name. -/
inductive Definition where
  | inert
  | scripted (script : Script)
  | coded (script : CodedScript)
  | recorder (slot : Nat)
  | fixture (slot : Nat)
  deriving DecidableEq

namespace Definition

/-- The linked unit that holds the entry points of an engine. -/
def unit? (name : String) : Definition → Option String
  | .coded _ => some ("coded/" ++ name)
  | .recorder slot => some ("recorder/" ++ slot.repr)
  | .fixture slot => some ("fixture/" ++ slot.repr)
  | _ => none

/-- The program of that unit. -/
def program : Definition → Program
  | .coded script => .coded script.entryCode
  | .recorder _ => .analyzer Scenario.recorder
  | .fixture _ => .analyzer Scenario.fixture
  | _ => default

def supplied (name : String) (definition : Definition) : SuppliedEngine :=
  match definition, definition.unit? name with
  | .scripted _, _ => .custom name
  | _, some unit => .linked unit
  | _, none => .inert

/-- The custom engine of a definition. -/
def custom : Definition → Host.CustomEngine
  | .scripted script => script.engine
  | _ => default

/-- The number of calls that have steps to be made inside them. -/
def hookCount : Definition → Nat
  | .scripted script => script.hooks.count
  | .coded script => script.hooks.count
  | _ => 0

end Definition

end Scenario

structure Scenario where
  engines : List (String × Scenario.Definition) := []
  /-- The directory of its files. -/
  directory : Location := []
  /-- The files that the scenario mentions, by their paths. -/
  files : List (String × Scenario.Stock) := []
  steps : List Step

namespace Scenario

/-- The linked units of a scenario: their names, the engines over them, and their programs. -/
def units (scenario : Scenario) : List (String × String × Definition) :=
  scenario.engines.filterMap fun (name, definition) =>
    (definition.unit? name).map fun unit => (unit, name, definition)

/-- The code that a scenario describes. -/
def setup (scenario : Scenario) : Setup where
  supplied name := (scenario.engines.lookup name).elim .inert (Definition.supplied name)
  custom name := (scenario.engines.lookup name).elim default Definition.custom
  linked unit := (scenario.units.lookup unit).elim default fun (_, definition) =>
    definition.program
  library file :=
    match scenario.files.lookup file with
    | some stock => stock.library?.getD default
    | none => systemLibrary file

/-- The entries of the directories at and above a location. -/
def directoryEntries (location : Location) : List (Location × Contents) :=
  (location.ancestors ++ [location]).map fun directory => (directory, .directory)

/-- The entry of a file, if anything is stored there. -/
def fileEntry? (file : String) (stock : Stock) : Option (Location × Contents) :=
  (stock.contents? file).map fun contents => (.ofPath file, contents)

/-- What a scenario adds to the disk. -/
def diskEntries (scenario : Scenario) : List (Location × Contents) :=
  scenario.files.filterMap (fun (file, stock) => fileEntry? file stock)
    ++ directoryEntries scenario.directory

/-- The disk when a scenario begins. -/
def disk (scenario : Scenario) : Disk :=
  let entries := scenario.diskEntries
  { systemDisk with
    stored := fun location =>
      match entries.lookup location with
      | some contents => some contents
      | none => systemDisk.stored location }

/-- The loader of a process that has nothing but the system around it. -/
def systemLoader (disk : Disk) : Loader :=
  residentFiles.foldl Loader.hold { disk }

/-- The loader with one more file mapped for good. -/
def keepMapped (loader : Loader) (file : String) : Loader :=
  match loader.load file with
  | .ok (_, loaded) => loaded
  | .error _ => loader

/-- The process when a scenario begins: resident files are mapped, and both bridges unloaded. -/
def start (scenario : Scenario) : Host where
  loader :=
    let resident := scenario.files.filter fun (_, stock) => stock.isResident
    (resident.map Prod.fst).foldl keepMapped (systemLoader scenario.disk)

/-- How deep callbacks can nest: each level takes the first call of some kind to some engine. -/
def depth (scenario : Scenario) : Nat :=
  scenario.engines.foldl (fun count (_, definition) => count + definition.hookCount) 0

/-- The reports of all steps, and the process after them. -/
def run (scenario : Scenario) : List Report × Host :=
  (Host.runSteps scenario.setup scenario.depth scenario.steps).run scenario.start

/-- The process after the host has dropped the bridge it made for itself. -/
def dropOwnBridge (host : Host) : Host :=
  ((Host.replaceState .own .unloaded).run host).2

end Scenario
end FailOpen
