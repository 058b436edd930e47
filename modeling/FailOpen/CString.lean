import FailOpen.Text.Utf8

/-!
# Null-terminated strings

The strings that cross the boundary to an engine.  A `Buffer` is what a non-null pointer leads to,
without the terminator that ends it; a reader stops at the first NUL inside it, if there is one.  A
`CString` is what such a reader gets: bytes without a NUL.  A null pointer is `none` wherever it is
allowed.
-/

namespace FailOpen

/-- The bytes behind a non-null string pointer, up to the terminator that is certain to be there. -/
abbrev Buffer := List UInt8

namespace Buffer

/-- The bytes that a reader sees. -/
def visible (buffer : Buffer) : List UInt8 :=
  buffer.takeWhile (· ≠ 0)

theorem zero_notMem_visible (buffer : Buffer) : 0 ∉ buffer.visible := by
  intro h
  have := List.all_eq_true.1 List.all_takeWhile 0 h
  simp at this

end Buffer

/-- A byte string without NUL. -/
structure CString where
  bytes : List UInt8
  zero_notMem : 0 ∉ bytes
  deriving DecidableEq

namespace CString

def empty : CString := ⟨[], List.not_mem_nil⟩

instance : Inhabited CString := ⟨empty⟩

/-- What a reader finds behind a pointer. -/
def ofBuffer (buffer : Buffer) : CString :=
  ⟨buffer.visible, buffer.zero_notMem_visible⟩

/-- A byte string as a C string, or the index of the NUL that prevents it. -/
def ofBytes (bytes : List UInt8) : Except Nat CString :=
  if h : 0 ∈ bytes then .error (bytes.idxOf 0) else .ok ⟨bytes, h⟩

/-- A text as a C string. -/
def ofText (s : String) : Except Nat CString :=
  ofBytes (Text.Utf8.encode s)

end CString

/-- The text behind a string pointer: empty for null, and with ill-formed bytes replaced. -/
def readText : Option Buffer → String
  | none => ""
  | some buffer => Text.Utf8.decodeLossy buffer.visible

end FailOpen
