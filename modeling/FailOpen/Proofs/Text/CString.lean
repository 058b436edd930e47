import FailOpen.CString
import FailOpen.Proofs.Text.Utf8

/-!
# Texts across the boundary

A text without a NUL crosses the boundary unharmed: its bytes make a C string, and a buffer that
shows these bytes reads as the text.  A text with a NUL makes no C string, and the fault is the
place of the first one.

Buffers whose visible bytes are not the encoding of a text are left out, except that they do not
read as the empty text.
-/

namespace FailOpen

open Text

namespace CString

/-- The first NUL of some bytes stands at a position. -/
def FirstNul (bytes : List UInt8) (position : Nat) : Prop :=
  bytes[position]? = some 0 ∧ ∀ earlier < position, bytes[earlier]? ≠ some 0

theorem firstNul_idxOf {bytes : List UInt8} (hzero : 0 ∈ bytes) :
    FirstNul bytes (bytes.idxOf 0) := by
  have hlength : bytes.idxOf 0 < bytes.length := List.idxOf_lt_length_of_mem hzero
  refine ⟨?_, fun earlier hearlier hget => ?_⟩
  · rw [List.getElem?_eq_getElem hlength, List.getElem_idxOf]
  · have hbefore := List.not_of_lt_findIdx hearlier
    obtain ⟨hbound, hvalue⟩ := List.getElem?_eq_some_iff.mp hget
    simp [hvalue] at hbefore

theorem FirstNul.unique {bytes : List UInt8} {i j : Nat} (hi : FirstNul bytes i)
    (hj : FirstNul bytes j) : i = j := by
  obtain ⟨hzero, hfirst⟩ := hi
  obtain ⟨hzero', hfirst'⟩ := hj
  rcases Nat.lt_trichotomy i j with hlt | heq | hgt
  · exact absurd hzero (hfirst' i hlt)
  · exact heq
  · exact absurd hzero' (hfirst j hgt)

theorem ofText_eq_ok_iff {s : String} {c : CString} :
    ofText s = .ok c ↔ c.bytes = Utf8.encode s := by
  unfold ofText ofBytes
  split
  next hzero =>
    refine ⟨fun h => (nomatch h), fun h => absurd hzero ?_⟩
    rw [← h]
    exact c.zero_notMem
  next hzero =>
    refine ⟨fun h => ?_, fun h => ?_⟩
    · rw [← Except.ok.inj h]
    · cases c
      subst h
      rfl

theorem ofText_eq_error_iff {s : String} {position : Nat} :
    ofText s = .error position ↔ FirstNul (Utf8.encode s) position := by
  unfold ofText ofBytes
  split
  next hzero =>
    have hfirst := firstNul_idxOf hzero
    refine ⟨fun h => ?_, fun h => ?_⟩
    · rwa [← Except.error.inj h]
    · rw [hfirst.unique h]
  next hzero => exact ⟨fun h => (nomatch h), fun h => absurd (List.mem_of_getElem? h.1) hzero⟩

/-- A text makes a C string if it has no NUL. -/
theorem exists_ofText_iff {s : String} : (∃ c, ofText s = .ok c) ↔ '\x00' ∉ s.toList := by
  rw [← Utf8.zero_mem_encode]
  constructor
  · rintro ⟨c, h⟩
    rw [← ofText_eq_ok_iff.mp h]
    exact c.zero_notMem
  · intro hzero
    exact ⟨⟨Utf8.encode s, hzero⟩, ofText_eq_ok_iff.mpr rfl⟩

end CString

namespace Buffer

theorem visible_append {bytes : List UInt8} (h : 0 ∉ bytes) (rest : List UInt8) :
    visible (bytes ++ rest) = bytes ++ visible rest := by
  refine List.takeWhile_append_of_pos fun byte hbyte => decide_eq_true ?_
  rintro rfl
  exact h hbyte

theorem visible_of_notMem {bytes : List UInt8} (h : 0 ∉ bytes) : visible bytes = bytes := by
  have hall := visible_append h []
  rwa [List.append_nil, show visible [] = [] from rfl, List.append_nil] at hall

/-- Whatever follows a NUL is not seen. -/
theorem visible_append_zero {bytes : List UInt8} (h : 0 ∉ bytes) (rest : List UInt8) :
    visible (bytes ++ 0 :: rest) = bytes := by
  rw [visible_append h, show visible (0 :: rest) = [] from rfl, List.append_nil]

/-- The bytes are those before the first NUL of the buffer; if it has none, they are all of its
bytes. -/
def Shows (buffer : Buffer) (bytes : List UInt8) : Prop :=
  0 ∉ bytes ∧ (buffer = bytes ∨ ∃ rest, buffer = bytes ++ 0 :: rest)

theorem shows_iff {buffer : Buffer} {bytes : List UInt8} :
    buffer.Shows bytes ↔ bytes = buffer.visible := by
  constructor
  · rintro ⟨hzero, rfl | ⟨rest, rfl⟩⟩
    · exact (visible_of_notMem hzero).symm
    · exact (visible_append_zero hzero rest).symm
  · rintro rfl
    refine ⟨buffer.zero_notMem_visible, ?_⟩
    have hparts : buffer.visible ++ buffer.dropWhile (· ≠ 0) = buffer :=
      List.takeWhile_append_dropWhile
    cases hrest : buffer.dropWhile (· ≠ 0) with
    | nil =>
      rw [hrest, List.append_nil] at hparts
      exact .inl hparts.symm
    | cons byte rest =>
      -- what is not seen begins with a NUL
      have hbyte : byte = 0 := by
        have hhead := List.head?_dropWhile_not (fun byte : UInt8 => decide (byte ≠ 0)) buffer
        rw [hrest] at hhead
        simpa using hhead
      rw [hrest, hbyte] at hparts
      exact .inr ⟨rest, hparts.symm⟩

end Buffer

/-- A buffer that shows the bytes of a text reads as this text. -/
theorem readText_of_visible {buffer : Buffer} {s : String} (h : buffer.visible = Utf8.encode s) :
    readText (some buffer) = s := by
  rw [readText, h, Utf8.decodeLossy_encode]

theorem readText_cString {s : String} {c : CString} (h : CString.ofText s = .ok c) :
    readText (some c.bytes) = s := by
  refine readText_of_visible ?_
  rw [Buffer.visible_of_notMem c.zero_notMem]
  exact CString.ofText_eq_ok_iff.mp h

theorem readText_eq_empty_iff {pointer : Option Buffer} :
    readText pointer = "" ↔ ∀ buffer, pointer = some buffer → buffer.visible = [] := by
  cases pointer with
  | none => simp [readText]
  | some buffer => simp [readText, Utf8.decodeLossy_eq_empty_iff]

end FailOpen
