import FailOpen.Host.Setup
import FailOpen.Scenario.Symbols.Core
import FailOpen.Scenario.Symbols.Math
import FailOpen.Scenario.Symbols.Support

/-!
# Libraries of the system

Libraries that exist before a scenario adds its own.  A symbol is sought in a library and in
everything that it needs; all of them need the C library, and that needs the loader.  None of them
has an entry point of an engine.

A process has some of them mapped from its start.  So are two things that are no files: the program
that it runs, to which the empty name leads, and the code that the kernel lends to every process.
-/

namespace FailOpen
namespace Scenario

open Host (Library)
open Loader (Found programName)

/-- Whether a name is found through the C library. -/
def basicFinds (name : String) : Bool :=
  Symbols.core.contains name || Symbols.loading.contains name

/-- Whether a name is found through the libraries that compiled code of any kind needs. -/
def runtimeFinds (name : String) : Bool :=
  basicFinds name || Symbols.unwinding.contains name

/-- Whether a name is found through the library behind classes and exceptions. -/
def exceptionsFinds (name : String) : Bool :=
  runtimeFinds name || Symbols.math.contains name || Symbols.exceptions.contains name

/-- The library files of the system.  Those that `systemFinds` does not tell apart have no names of
their own any more: the C library has taken them over. -/
def libraryFiles : List String :=
  ["ld-linux-x86-64.so.2", "libanl.so.1", "libc.so.6", "libcrypt.so.1", "libdl.so.2",
    "libgcc_s.so.1", "libm.so.6", "libnsl.so.1", "libnss_dns.so.2", "libnss_files.so.2",
    "libpthread.so.0", "libresolv.so.2", "librt.so.1", "libstdc++.so.6", "libutil.so.1",
    "libz.so.1"]

/-- The name of the code that the kernel lends. -/
def kernelCodeName : String := "linux-vdso.so.1"

/-- What a process has mapped from its start. -/
def residentFiles : List Found :=
  [⟨"", "", programName⟩, ⟨kernelCodeName, kernelCodeName, kernelCodeName⟩,
    ⟨"libgcc_s.so.1", "/lib/x86_64-linux-gnu/libgcc_s.so.1", "libgcc_s.so.1"⟩,
    ⟨"libc.so.6", "/lib/x86_64-linux-gnu/libc.so.6", "libc.so.6"⟩,
    ⟨"ld-linux-x86-64.so.2", "/lib64/ld-linux-x86-64.so.2", "ld-linux-x86-64.so.2"⟩]

/-- Whether a name is found through what the system provides under a file name. -/
def systemFinds (file name : String) : Bool :=
  match file with
  | "ld-linux-x86-64.so.2" => Symbols.loading.contains name
  | "libcrypt.so.1" => basicFinds name || Symbols.hashing.contains name
  | "libgcc_s.so.1" => runtimeFinds name
  | "libm.so.6" => basicFinds name || Symbols.math.contains name
  | "libresolv.so.2" => basicFinds name || Symbols.resolving.contains name
  | "libstdc++.so.6" => exceptionsFinds name
  | "libz.so.1" => basicFinds name || Symbols.compressing.contains name
  | _ =>
    if file = programName then runtimeFinds name
    else if file = kernelCodeName then Symbols.lent.contains name
    else if file ∈ libraryFiles then basicFinds name
    else false

/-- The library that the system provides under a file name. -/
def systemLibrary (file : String) : Library where
  exports := []
  needed := systemFinds file
  program := default

end Scenario
end FailOpen
