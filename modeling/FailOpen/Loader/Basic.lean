import FailOpen.Analyzer.Basic
import FailOpen.Loader.Disk
import FailOpen.Loader.Name
import FailOpen.Text.Quoted
import FailOpen.Text.Shape

/-!
# The loader

Loaded libraries and their lifetime.  A file is mapped as long as handles to it are open; its data
are fresh each time it is mapped anew.  The path from which a file was mapped, and every name under
which it has been opened since, keep leading to it while it is mapped, whatever is stored there
meanwhile.  If a name has come to lead to several files, the one that was mapped first is meant.

The loader calls a mapped file, and one that cannot be loaded, by the path that was taken to it, and
a missing one as it was given.

A `Module` is the outcome of one successful load and owns one handle.  Modules are shared: each has
a number of holders, and its handle is closed when the last of them lets go.
-/

namespace FailOpen
namespace Loader

open Text

/-- The data of code that has entry points: the calls it has received, and what an analyzer in it
keeps. -/
structure Statics extends Analyzer.Memory where
  received : List Call := []
  deriving DecidableEq

/-- The number of traces that the analyzer in the slot has been handed. -/
def Statics.ingested (statics : Statics) : Nat :=
  statics.slot.elim 0 Analyzer.Instance.ingested

/-- A mapped file. -/
structure Image where
  /-- The path from which it was mapped.  Only the program itself has none. -/
  path : String
  /-- The open handles. -/
  handles : Nat
  statics : Statics := {}
  deriving DecidableEq

/-- What the program itself is called. -/
def programName : String := "host"

/-- What a mapped file is called. -/
def Image.name (image : Image) : String :=
  if image.path = "" then programName else image.path

/-- One successful load. -/
structure Module where
  /-- Which load it was. -/
  load : Nat
  /-- The path that was given. -/
  path : String
  /-- The file that was found there. -/
  file : String
  deriving DecidableEq, Repr

/-- A module shown for debugging. -/
def Module.shown (module : Module) : String :=
  Shape.record "NativeModule" [("path", quote module.path)]

/-- Why a load fails. -/
inductive LoadFault where
  | name (path : String) (fault : NameFault)
  /-- Nothing is found under the given name. -/
  | notFound (path given : String) (fault : PathFault)
  /-- What is found cannot be loaded. -/
  | notLoadable (path found : String) (fault : ContentsFault)
  deriving DecidableEq, Repr

def LoadFault.message : LoadFault → String
  | .name path fault => "Failed to load library: " ++ path ++ ": " ++ fault.message
  | .notFound path given fault =>
    "Failed to load library: " ++ path ++ ": " ++ given ++ ": " ++ fault.message
  | .notLoadable path found fault =>
    "Failed to load library: " ++ path ++ ": " ++ found ++ ": " ++ fault.message

/-- Why a symbol is not found in a module. -/
inductive SymbolFault where
  | name (symbol path : String) (fault : NameFault)
  /-- The file that was searched is called by the name of its image. -/
  | undefined (symbol path image given : String)
  deriving DecidableEq, Repr

def SymbolFault.message : SymbolFault → String
  | .name symbol path fault =>
    "Symbol " ++ symbol ++ " not found in " ++ path ++ ": " ++ fault.message
  | .undefined symbol path image given =>
    "Symbol " ++ symbol ++ " not found in " ++ path ++ ": " ++ image ++ ": undefined symbol: "
      ++ given

end Loader

open Loader

/-- The state of the loader. -/
structure Loader where
  disk : Disk
  /-- The mapped files. -/
  images : String → Option Image := fun _ => none
  /-- The mapped files to which names have come to lead, in the order in which they were mapped. -/
  known : String → List String := fun _ => []
  /-- The number of holders of each module. -/
  holders : Nat → Nat := fun _ => 0
  /-- The number of successful loads so far. -/
  loads : Nat := 0

namespace Loader

/-- Whether a file is mapped. -/
def isMapped (loader : Loader) (file : String) : Bool :=
  (loader.images file).isSome

/-- The open handles to a file. -/
def handles (loader : Loader) (file : String) : Nat :=
  (loader.images file).elim 0 Image.handles

/-- The data of a file; fresh if it is not mapped. -/
def statics (loader : Loader) (file : String) : Statics :=
  (loader.images file).elim {} Image.statics

/-- Changes the data of a file, if it is mapped. -/
def modifyStatics (loader : Loader) (file : String) (f : Statics → Statics) : Loader :=
  match loader.images file with
  | none => loader
  | some image =>
    { loader with
      images := update loader.images file (some { image with statics := f image.statics }) }

/-- A library file that a name leads to. -/
structure Found where
  /-- The name that the loader is given. -/
  name : String
  /-- The path that is taken for it. -/
  path : String
  file : String
  deriving DecidableEq, Repr

/-- The file that loading a path would map. -/
def locate (loader : Loader) (path : String) : Except LoadFault Found :=
  match plainName path with
  | .error fault => .error (.name path fault)
  | .ok name =>
    match loader.known name with
    | file :: _ => .ok ⟨name, name, file⟩
    | [] =>
      match loader.disk.find name with
      | .error fault => .error (.notFound path name fault)
      | .ok (found, location) =>
        match loader.disk.library location with
        | .error fault => .error (.notLoadable path found fault)
        | .ok file => .ok ⟨name, found, file⟩

/-- Lets a name lead to a file, behind the files that it leads to already. -/
def addName (loader : Loader) (file name : String) : Loader :=
  if file ∈ loader.known name then loader
  else { loader with known := update loader.known name (loader.known name ++ [file]) }

/-- Opens one more handle to a file, mapping it if it is not mapped. -/
def openHandle (loader : Loader) (found : Found) : Loader :=
  match loader.images found.file with
  | some image =>
    { loader.addName found.file found.name with
      images := update loader.images found.file
        (some { image with handles := image.handles + 1 }) }
  | none =>
    { (loader.addName found.file found.path).addName found.file found.name with
      images := update loader.images found.file (some { path := found.path, handles := 1 }) }

/-- Closes one handle to a file, unmapping it if it was the last. -/
def closeHandle (loader : Loader) (file : String) : Loader :=
  match loader.images file with
  | none => loader
  | some image =>
    if image.handles ≤ 1 then
      { loader with
        images := update loader.images file none
        known := fun name => (loader.known name).filter (· ≠ file) }
    else
      { loader with
        images := update loader.images file (some { image with handles := image.handles - 1 }) }

/-- Opens a handle for a new module, which has one holder, the one who asked for it. -/
def hold (loader : Loader) (found : Found) : Loader :=
  let opened := loader.openHandle found
  { opened with
    holders := update loader.holders loader.loads 1
    loads := loader.loads + 1 }

/-- Loads a path. -/
def load (loader : Loader) (path : String) : Except LoadFault (Module × Loader) :=
  match loader.locate path with
  | .error fault => .error fault
  | .ok found => .ok (⟨loader.loads, path, found.file⟩, loader.hold found)

/-- One more holder of a module. -/
def retain (loader : Loader) (module : Module) : Loader :=
  { loader with holders := update loader.holders module.load (loader.holders module.load + 1) }

/-- One holder of a module less.  The last one closes its handle. -/
def release (loader : Loader) (module : Module) : Loader :=
  let fewer : Loader :=
    { loader with holders := update loader.holders module.load (loader.holders module.load - 1) }
  if loader.holders module.load = 1 then fewer.closeHandle module.file else fewer

/-- Whether a symbol is found in a module.  `finds` tells what is found through its file. -/
def findSymbol (loader : Loader) (finds : String → Bool) (module : Module) (symbol : String) :
    Except SymbolFault Unit :=
  match plainName symbol with
  | .error fault => .error (.name symbol module.path fault)
  | .ok name =>
    if finds name then .ok ()
    else
      let image := (loader.images module.file).elim module.path Image.name
      .error (.undefined symbol module.path image name)

end Loader
end FailOpen
