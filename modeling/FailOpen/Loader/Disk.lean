import FailOpen.Loader.Token
import FailOpen.Text.Split
import FailOpen.Text.Utf8
import FailOpen.Update

/-!
# Files that can be loaded

What the loader finds under a name.  Files form a tree; a location is the list of names that leads
to a place in it.  A path is followed from name to name: the empty name and `.` stay, `..` goes up,
a link leads on to its target, and every name needs a directory to be sought in, so a file followed
by a slash is no place at all.

A name with a slash is a path, in which tokens are replaced.  Any other is sought in the library
directories, one after the other, and what is found first is taken, whether it can be loaded or not.
All that exists may be read.
-/

namespace FailOpen
namespace Loader

open Text

/-- The names that lead from the root to a place. -/
abbrev Location := List String

/-- The location of a plain path, which has neither `.` nor `..` in it. -/
def Location.ofPath (path : String) : Location :=
  (split '/' path).filter (· ≠ "")

/-- The directories on the way to a location. -/
def Location.ancestors (location : Location) : List Location :=
  (List.range location.length).map location.take

/-- What is stored at a location.  A library is named by the file that holds it, so that two
locations can lead to the same one. -/
inductive Contents where
  | directory
  /-- Too few bytes for a library header. -/
  | short
  /-- Enough bytes, but no library header. -/
  | foreign
  /-- Compiled code that has not been linked. -/
  | unlinked
  /-- A program that runs by itself. -/
  | program
  | library (file : String)
  /-- Another name of the place to which some names lead from the root. -/
  | link (target : Location)
  deriving DecidableEq, Repr

structure Disk where
  /-- What is stored at the locations other than the root, which is always a directory. -/
  stored : Location → Option Contents
  /-- The directory in which relative paths begin. -/
  workingDirectory : Location := []
  /-- The directories in which names without a slash are sought, each ending in a slash. -/
  libraryDirectories : List String := []
  /-- What the tokens in paths stand for. -/
  tokens : Tokens := []

/-- Why a path leads nowhere. -/
inductive PathFault where
  | absent
  | notDirectory
  | nameTooLong
  | tooManyLinks
  deriving DecidableEq, Repr

def PathFault.message (fault : PathFault) : String :=
  "cannot open shared object file: " ++
    match fault with
    | .absent => "No such file or directory"
    | .notDirectory => "Not a directory"
    | .nameTooLong => "File name too long"
    | .tooManyLinks => "Too many levels of symbolic links"

/-- Why what is stored somewhere cannot be loaded. -/
inductive ContentsFault where
  | directory
  | short
  | foreign
  | unlinked
  | program
  deriving DecidableEq, Repr

def ContentsFault.message : ContentsFault → String
  | .directory => "cannot read file data: Is a directory"
  | .short => "file too short"
  | .foreign => "invalid ELF header"
  | .unlinked => "only ET_DYN and ET_EXEC can be loaded"
  | .program => "cannot dynamically load position-independent executable"

/-- The greatest number of bytes in a name. -/
def maxNameSize : Nat := 255

/-- The greatest number of bytes in a path that can be followed. -/
def maxPathSize : Nat := 4095

/-- The number of links that may be met on one path. -/
def maxLinks : Nat := 40

namespace Disk

/-- What is stored at a location, if it exists. -/
def contents? (disk : Disk) (location : Location) : Option Contents :=
  if location = [] then some .directory else disk.stored location

/-- Follows names from a location on, up to the first link; `jump` then follows the target of the
link, and the names behind it, from the root. -/
def walk (disk : Disk) (jump : List String → Except PathFault Location) (location : Location) :
    List String → Except PathFault Location
  | [] => .ok location
  | name :: names =>
    if disk.contents? location ≠ some .directory then .error .notDirectory
    else if name = "" ∨ name = "." then disk.walk jump location names
    else if name = ".." then disk.walk jump location.dropLast names
    else if maxNameSize < name.utf8ByteSize then .error .nameTooLong
    else
      match disk.contents? (location ++ [name]) with
      | none => .error .absent
      | some (.link target) => jump (target ++ names)
      | some _ => disk.walk jump (location ++ [name]) names

/-- Follows names from a location on, through at most as many links as given. -/
def follow (disk : Disk) : (links : Nat) → Location → List String → Except PathFault Location
  | 0 => disk.walk fun _ => .error .tooManyLinks
  | links + 1 => disk.walk (disk.follow links [])

/-- The location that a path leads to. -/
def locate (disk : Disk) (path : String) : Except PathFault Location :=
  if maxPathSize < path.utf8ByteSize then .error .nameTooLong
  else
    let start := if path.toList.head? = some '/' then [] else disk.workingDirectory
    disk.follow maxLinks start (split '/' path)

/-- The first of some paths that leads anywhere, and where it leads; the fault of the last one if
none does. -/
def locateFirst (disk : Disk) : List String → Except PathFault (String × Location)
  | [] => .error .absent
  | path :: paths =>
    match disk.locate path, paths with
    | .ok location, _ => .ok (path, location)
    | .error fault, [] => .error fault
    | .error _, paths => disk.locateFirst paths

/-- The path that is taken for a name, and where it leads. -/
def find (disk : Disk) (name : String) : Except PathFault (String × Location) :=
  disk.locateFirst
    (if '/' ∈ name.toList then [expand disk.tokens name]
    else disk.libraryDirectories.map (· ++ name))

/-- The library file at a location to which a path leads. -/
def library (disk : Disk) (location : Location) : Except ContentsFault String :=
  match disk.contents? location with
  | some (.library file) => .ok file
  | some .short => .error .short
  | some .unlinked => .error .unlinked
  | some .program => .error .program
  | some .directory => .error .directory
  | _ => .error .foreign

/-- Takes away whatever is stored at a location. -/
def remove (disk : Disk) (location : Location) : Disk :=
  { disk with stored := update disk.stored location none }

/-- Stores something at a location, in place of what was there. -/
def store (disk : Disk) (location : Location) (contents : Contents) : Disk :=
  { disk with stored := update disk.stored location (some contents) }

end Disk
end Loader
end FailOpen
