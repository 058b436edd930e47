import FailOpen.Text.Utf8

/-!
# Names given to the loader

Paths and symbols reach the loader as null-terminated strings.  A name may bring its own terminator
as its last byte; a NUL anywhere else makes it unusable.
-/

namespace FailOpen
namespace Loader

inductive NameFault where
  /-- A NUL in a name that does not end with one. -/
  | inside (position : Nat)
  /-- A NUL before the one that ends the name. -/
  | beforeEnd (position : Nat)
  deriving DecidableEq, Repr

def NameFault.message : NameFault → String
  | .inside position =>
    "could not create a C string from bytes: nul byte found in provided data at position: "
      ++ position.repr
  | .beforeEnd position =>
    "could not create a C string from bytes with trailing null: "
      ++ "data provided contains an interior nul byte at byte position " ++ position.repr

/-- The name without a terminator of its own. -/
def plainName (name : String) : Except NameFault String :=
  let bytes := Text.Utf8.encode name
  let position := bytes.idxOf 0
  if position = bytes.length then .ok name
  else if bytes.getLast? ≠ some 0 then .error (.inside position)
  else if position + 1 = bytes.length then .ok (String.ofList name.toList.dropLast)
  else .error (.beforeEnd position)

end Loader
end FailOpen
