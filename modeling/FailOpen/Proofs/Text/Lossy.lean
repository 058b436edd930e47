import FailOpen.Proofs.Text.CString
import FailOpen.Proofs.Text.Utf8Strict

/-!
# Reading bytes that need not be text

Any bytes can be read as text.  This module says what the text is, apart from the decoder: a `Cut`
takes a byte string apart into characters and ill-formed parts, and an ill-formed part is as long as
the start of a character can be at its place.

* `first_breaks` is the step: a piece that is no character is broken off by the byte behind it,
  whatever comes later.
* `cut_lossy` is the run, and `Cut.eq_lossy` says that there is no other cut.
* What the text keeps of the bytes is read off the cut: `Cut.ascii` and `Cut.length_le`.
* `readText_faithful` puts these together for the text behind a string pointer.
-/

namespace FailOpen
namespace Text
namespace Utf8

/-! ## Ill-formed parts -/

/-- Some character is encoded by bytes that begin with these. -/
def Begins (bytes : List UInt8) : Prop :=
  ∃ c : Char, bytes <+: String.utf8EncodeChar c

/-- What is replaced where no character stands: the longest start of a character, or a single byte
if no character begins here. -/
structure IllFormed (part rest : List UInt8) : Prop where
  noCharacter : ∀ c : Char, ¬ String.utf8EncodeChar c <+: part ++ rest
  ne_nil : part ≠ []
  begins : part.length = 1 ∨ Begins part
  longest : ∀ longer, longer <+: part ++ rest → part.length < longer.length → ¬ Begins longer

/-- The rules by which a byte string is taken apart. -/
inductive Cut : List UInt8 → List Char → Prop
  | nil : Cut [] []
  | char (c : Char) {rest : List UInt8} {cs : List Char} (hrest : Cut rest cs) :
      Cut (String.utf8EncodeChar c ++ rest) (c :: cs)
  | replaced {part rest : List UInt8} {cs : List Char} (hpart : IllFormed part rest)
      (hrest : Cut rest cs) : Cut (part ++ rest) (replacement :: cs)

section

variable {part part' rest rest' : List UInt8}

theorem IllFormed.not_longer (h : IllFormed part rest) (h' : IllFormed part' rest')
    (heq : part ++ rest = part' ++ rest') : ¬ part.length < part'.length := by
  intro hlt
  have hfront : part' <+: part ++ rest := heq ▸ List.prefix_append part' rest'
  rcases h'.begins with hone | hbegins
  · have hempty : part.length = 0 := by omega
    exact h.ne_nil (List.eq_nil_of_length_eq_zero hempty)
  · exact h.longest part' hfront hlt hbegins

/-- There is one ill-formed part at the front of a byte string, or none. -/
theorem IllFormed.unique (h : IllFormed part rest) (h' : IllFormed part' rest')
    (heq : part ++ rest = part' ++ rest') : part = part' ∧ rest = rest' := by
  refine List.append_inj heq (Nat.le_antisymm ?_ ?_)
  · exact Nat.not_lt.mp (h'.not_longer h heq.symm)
  · exact Nat.not_lt.mp (h.not_longer h' heq)

end

/-! ## The decoder finds them -/

section

variable {a b c : UInt8} {rest part : List UInt8} {n : Nat}

/-- A continuation byte, to complete what has been begun. -/
theorem continues_filler : 0x80 ≤ (0x80 : UInt8).toNat ∧ (0x80 : UInt8).toNat ≤ 0xBF := by
  decide

theorem begins_of_three (ha : 0xE0 ≤ a.toNat) (ha' : a.toNat ≤ 0xEF)
    (hb : (if a.toNat = 0xE0 then 0xA0 else 0x80) ≤ b.toNat)
    (hb' : b.toNat ≤ if a.toNat = 0xED then 0x9F else 0xBF) : Begins [a, b] :=
  ⟨_, [0x80], (utf8EncodeChar_char3 ha ha' hb hb' continues_filler).symm⟩

theorem begins_of_four (ha : 0xF0 ≤ a.toNat) (ha' : a.toNat ≤ 0xF4)
    (hb : (if a.toNat = 0xF0 then 0x90 else 0x80) ≤ b.toNat)
    (hb' : b.toNat ≤ if a.toNat = 0xF4 then 0x8F else 0xBF)
    (hc : 0x80 ≤ c.toNat ∧ c.toNat ≤ 0xBF) : Begins [a, b, c] :=
  ⟨_, [0x80], (utf8EncodeChar_char4 ha ha' hb hb' hc continues_filler).symm⟩

theorem Begins.of_front {bytes longer : List UInt8} (h : Begins longer)
    (hfront : bytes <+: longer) : Begins bytes :=
  h.imp fun _ hlonger => hfront.trans hlonger

/-- The first piece is broken off after `n` bytes of the rest: it could have gone on as a character,
or is a single byte, and the byte behind it is what breaks it off. -/
structure Breaks (a : UInt8) (rest part : List UInt8) (n : Nat) : Prop where
  part_eq : part = a :: rest.take n
  begins : part.length = 1 ∨ Begins part
  broken : n < rest.length → ∀ more, first a (rest.take (n + 1) ++ more) = (.invalid part, n)

theorem first_breaks (h : first a rest = (.invalid part, n)) : Breaks a rest part n := by
  unfold first at h
  split at h
  · cases h
  next hascii =>
  split at h
  · next hlead =>
    obtain ⟨rfl, rfl⟩ : [a] = part ∧ 0 = n := by simpa using h
    exact ⟨rfl, .inl rfl, fun _ more => by simp [first, hascii, hlead]⟩
  · obtain ⟨rfl, rfl⟩ : [a] = part ∧ 0 = n := by simpa using h
    exact ⟨rfl, .inl rfl, fun hlength => absurd hlength (Nat.not_lt_zero 0)⟩
  next lead b rest hlead =>
  split at h
  · next hbounds =>
    obtain ⟨rfl, rfl⟩ : [a] = part ∧ 0 = n := by simpa using h
    exact ⟨rfl, .inl rfl, fun _ more => by simp [first, hascii, hlead, hbounds]⟩
  next hbounds =>
  obtain ⟨hlow, hhigh⟩ := Decidable.not_not.mp hbounds
  rw [UInt8.le_iff_toNat_le] at hlow hhigh
  -- the first two bytes begin a character, so only a byte behind them can break it off
  rcases lead?_cases hlead with ⟨ha, ha', rfl⟩ | ⟨ha, ha', rfl⟩ | ⟨ha, ha', rfl⟩
  · cases h
  · dsimp only at hlow hhigh h
    rw [apply_ite UInt8.toNat] at hlow hhigh
    have hbegun : Begins [a, b] := begins_of_three ha ha' hlow hhigh
    rw [if_neg (by decide)] at h
    split at h
    · obtain ⟨rfl, rfl⟩ : [a, b] = part ∧ 1 = n := by simpa using h
      exact ⟨rfl, .inr hbegun, fun hlength => absurd hlength (Nat.lt_irrefl 1)⟩
    split at h
    · next hc =>
      obtain ⟨rfl, rfl⟩ : [a, b] = part ∧ 1 = n := by simpa using h
      exact ⟨rfl, .inr hbegun, fun _ more => by simp_all [first]⟩
    · cases h
  · dsimp only at hlow hhigh h
    rw [apply_ite UInt8.toNat] at hlow hhigh
    have hbegun : ∀ c, isContinuation c → Begins [a, b, c] := fun c hc =>
      begins_of_four ha ha' hlow hhigh (isContinuation_iff.mp hc)
    have hbegun₂ : Begins [a, b] := (hbegun 0x80 (by decide)).of_front ⟨[0x80], rfl⟩
    rw [if_neg (by decide)] at h
    split at h
    · obtain ⟨rfl, rfl⟩ : [a, b] = part ∧ 1 = n := by simpa using h
      exact ⟨rfl, .inr hbegun₂, fun hlength => absurd hlength (Nat.lt_irrefl 1)⟩
    next c rest =>
    split at h
    · next hc =>
      obtain ⟨rfl, rfl⟩ : [a, b] = part ∧ 1 = n := by simpa using h
      exact ⟨rfl, .inr hbegun₂, fun _ more => by simp_all [first]⟩
    next hc =>
    have hbegun₃ : Begins [a, b, c] := hbegun c (Decidable.not_not.mp hc)
    rw [if_neg (by decide)] at h
    split at h
    · obtain ⟨rfl, rfl⟩ : [a, b, c] = part ∧ 2 = n := by simpa using h
      exact ⟨rfl, .inr hbegun₃, fun hlength => absurd hlength (Nat.lt_irrefl 2)⟩
    split at h
    · next hd =>
      obtain ⟨rfl, rfl⟩ : [a, b, c] = part ∧ 2 = n := by simpa using h
      exact ⟨rfl, .inr hbegun₃, fun _ more => by simp_all [first]⟩
    · cases h

/-- Where a character stands, it is the first piece. -/
theorem first_of_front {c : Char} (h : String.utf8EncodeChar c <+: a :: rest) :
    ∃ n, first a rest = (.char c, n) := by
  obtain ⟨more, hmore⟩ := h
  obtain ⟨a', tail, hbytes, hfirst⟩ := first_utf8EncodeChar c more
  rw [hbytes, List.cons_append, List.cons.injEq] at hmore
  obtain ⟨rfl, rfl⟩ := hmore
  exact ⟨_, hfirst⟩

/-- A first piece that is no character is an ill-formed part. -/
theorem illFormed_of_first (h : first a rest = (.invalid part, n)) :
    part = a :: rest.take n ∧ IllFormed part (rest.drop n) := by
  obtain ⟨hpart, hbegins, hbroken⟩ := first_breaks h
  have hwhole : part ++ rest.drop n = a :: rest := by
    rw [hpart, List.cons_append, List.take_append_drop]
  refine ⟨hpart, ?_, ?_, hbegins, ?_⟩
  · intro c hfront
    obtain ⟨m, hchar⟩ := first_of_front (hwhole ▸ hfront)
    rw [h] at hchar
    cases hchar
  · rw [hpart]
    exact List.cons_ne_nil a _
  · rintro longer ⟨behind, hlonger⟩ hlength ⟨c, more, hbytes⟩
    rw [hwhole] at hlonger
    cases longer with
    | nil => exact absurd hlength (Nat.not_lt_zero _)
    | cons a' tail =>
      obtain ⟨rfl, rfl⟩ : a' = a ∧ tail ++ behind = rest := List.cons.inj hlonger
      rw [hpart, List.length_cons, List.length_cons, List.length_take,
        List.length_append] at hlength
      -- the longer start holds the byte that has broken the piece off
      have htake : (tail ++ behind).take (n + 1) = tail.take (n + 1) :=
        List.take_append_of_le_length (by omega)
      have hinvalid := hbroken (by rw [List.length_append]; omega) (tail.drop (n + 1) ++ more)
      rw [htake, ← List.append_assoc, List.take_append_drop] at hinvalid
      have hfront : String.utf8EncodeChar c <+: a' :: (tail ++ more) := by
        rw [← hbytes]
        exact List.prefix_rfl
      obtain ⟨m, hchar⟩ := first_of_front hfront
      rw [hinvalid] at hchar
      cases hchar

end

/-! ## The cut of a byte string -/

/-- The characters that lossy decoding writes. -/
def lossyChars (bytes : List UInt8) : List Char :=
  (chunks bytes).map Chunk.lossy

theorem toList_decodeLossy (bytes : List UInt8) :
    (decodeLossy bytes).toList = lossyChars bytes :=
  String.toList_ofList

theorem lossyChars_cons (a : UInt8) (rest : List UInt8) :
    lossyChars (a :: rest) =
      (first a rest).1.lossy :: lossyChars (rest.drop (first a rest).2) := by
  rw [lossyChars, chunks, chunksAfter, chunksAfter_eq_drop, List.map_cons]
  rfl

theorem lossyChars_encodeChars_append (cs : List Char) (rest : List UInt8) :
    lossyChars (encodeChars cs ++ rest) = cs ++ lossyChars rest := by
  rw [lossyChars, chunks_encodeChars_append, List.map_append, List.map_map]
  exact congrArg (· ++ lossyChars rest) (List.map_id cs)

/-- Lossy decoding cuts by the rules. -/
theorem cut_lossy (bytes : List UInt8) : Cut bytes (lossyChars bytes) := by
  induction hlength : bytes.length using Nat.strongRecOn generalizing bytes with
  | ind length ih =>
  cases bytes with
  | nil => exact .nil
  | cons a rest =>
    have hrest : Cut (rest.drop (first a rest).2) (lossyChars (rest.drop (first a rest).2)) := by
      refine ih _ ?_ _ rfl
      rw [← hlength, List.length_cons, List.length_drop]
      omega
    rw [lossyChars_cons]
    rcases hfirst : first a rest with ⟨c | part, n⟩
    · rw [hfirst] at hrest
      have hcut := Cut.char c hrest
      rwa [utf8EncodeChar_of_first hfirst, List.cons_append, List.take_append_drop] at hcut
    · obtain ⟨hpart, hillFormed⟩ := illFormed_of_first hfirst
      rw [hfirst] at hrest
      have hcut := Cut.replaced hillFormed hrest
      rwa [hpart, List.cons_append, List.take_append_drop] at hcut

/-- There is no other cut. -/
theorem Cut.eq_lossy {bytes : List UInt8} {cs : List Char} (h : Cut bytes cs) :
    cs = lossyChars bytes := by
  induction h with
  | nil => rfl
  | @char c rest cs hrest ih =>
    have hone := lossyChars_encodeChars_append [c] rest
    rw [encodeChars, List.flatMap_singleton] at hone
    rw [hone, ih, List.singleton_append]
  | @replaced part rest cs hpart hrest ih =>
    cases part with
    | nil => exact absurd rfl hpart.ne_nil
    | cons a tail =>
      rw [List.cons_append, lossyChars_cons]
      rcases hfirst : first a (tail ++ rest) with ⟨c | found, n⟩
      · refine absurd ?_ (hpart.noCharacter c)
        rw [utf8EncodeChar_of_first hfirst]
        exact ⟨(tail ++ rest).drop n, by simp⟩
      · obtain ⟨hfound, hillFormed⟩ := illFormed_of_first hfirst
        have hwhole : found ++ (tail ++ rest).drop n = a :: tail ++ rest := by
          rw [hfound, List.cons_append, List.take_append_drop, List.cons_append]
        obtain ⟨-, hdrop⟩ := hillFormed.unique hpart hwhole
        rw [hdrop, ih]
        rfl

/-! ## What the text keeps of the bytes -/

/-- The characters that are encoded by one byte. -/
def isAscii (c : Char) : Bool :=
  c.toNat < 0x80

/-- The characters of the bytes below 128. -/
def asciiOf (bytes : List UInt8) : List Char :=
  (bytes.filter (· < 0x80)).map fun byte => Char.ofNat byte.toNat

theorem asciiOf_append (first second : List UInt8) :
    asciiOf (first ++ second) = asciiOf first ++ asciiOf second := by
  simp [asciiOf]

theorem asciiOf_eq_nil {bytes : List UInt8} (h : ∀ byte ∈ bytes, 0x80 ≤ byte.toNat) :
    asciiOf bytes = [] := by
  rw [asciiOf, List.map_eq_nil_iff, List.filter_eq_nil_iff]
  intro byte hbyte
  have := h byte hbyte
  simpa [UInt8.lt_iff_toNat_lt] using this

theorem utf8EncodeChar_of_isAscii {c : Char} (h : isAscii c) :
    String.utf8EncodeChar c = [.ofNat c.toNat] := by
  have hc : c.toNat < 0x80 := of_decide_eq_true h
  rw [utf8EncodeChar_eq]
  exact if_pos (by omega)

/-- All bytes of a longer sequence are at least 128. -/
theorem le_of_mem_utf8EncodeChar {c : Char} (h : isAscii c = false) :
    ∀ byte ∈ String.utf8EncodeChar c, 0x80 ≤ byte.toNat := by
  have hc : 0x80 ≤ c.toNat := Nat.not_lt.mp (of_decide_eq_false h)
  have hbound : c.toNat < 0x110000 := by
    rcases c.valid with hlow | ⟨-, hhigh⟩
    · exact Nat.lt_trans hlow (by decide)
    · exact hhigh
  rw [utf8EncodeChar_eq]
  dsimp only
  rw [if_neg (by omega)]
  split
  · simp only [List.forall_mem_cons, List.not_mem_nil, false_implies, implies_true, and_true]
    rw [toNat_byte (by omega), toNat_byte (by omega)]
    omega
  split
  · simp only [List.forall_mem_cons, List.not_mem_nil, false_implies, implies_true, and_true]
    rw [toNat_byte (by omega), toNat_byte (by omega), toNat_byte (by omega)]
    omega
  · simp only [List.forall_mem_cons, List.not_mem_nil, false_implies, implies_true, and_true]
    rw [toNat_byte (by omega), toNat_byte (by omega), toNat_byte (by omega),
      toNat_byte (by omega)]
    omega

theorem asciiOf_utf8EncodeChar (c : Char) :
    asciiOf (String.utf8EncodeChar c) = [c].filter isAscii := by
  cases hc : isAscii c with
  | true =>
    have hlt : c.toNat < 0x80 := of_decide_eq_true hc
    have hbyte : (UInt8.ofNat c.toNat).toNat = c.toNat := toNat_byte (by omega)
    rw [utf8EncodeChar_of_isAscii hc]
    simp [asciiOf, UInt8.lt_iff_toNat_lt, hbyte, hlt, hc]
  | false =>
    rw [asciiOf_eq_nil (le_of_mem_utf8EncodeChar hc)]
    simp [hc]

/-- No byte below 128 is replaced: it is a character wherever it stands. -/
theorem IllFormed.le_of_mem {part rest : List UInt8} (h : IllFormed part rest) :
    ∀ byte ∈ part, 0x80 ≤ byte.toNat := by
  rcases h.begins with hone | ⟨c, hfront⟩
  · obtain ⟨a, rfl⟩ := List.length_eq_one_iff.mp hone
    rw [List.forall_mem_singleton]
    refine Nat.not_lt.mp fun hlt => h.noCharacter (Char.ofNat a.toNat) ?_
    rw [utf8EncodeChar_of_ascii hlt]
    exact List.prefix_append [a] rest
  · cases hc : isAscii c with
    | true =>
      -- a start of a single byte is all of it
      have hpart : part = String.utf8EncodeChar c := by
        refine hfront.eq_of_length_le ?_
        rw [utf8EncodeChar_of_isAscii hc]
        exact List.length_pos_iff.mpr h.ne_nil
      exact absurd (hpart ▸ List.prefix_append part rest) (h.noCharacter c)
    | false => exact fun byte hbyte => le_of_mem_utf8EncodeChar hc byte (hfront.subset hbyte)

/-- The ASCII characters of the text are the bytes below 128, in order. -/
theorem Cut.ascii {bytes : List UInt8} {cs : List Char} (h : Cut bytes cs) :
    cs.filter isAscii = asciiOf bytes := by
  induction h with
  | nil => rfl
  | char c hrest ih =>
    rw [asciiOf_append, asciiOf_utf8EncodeChar, ← ih, ← List.filter_append, List.singleton_append]
  | replaced hpart hrest ih =>
    rw [asciiOf_append, asciiOf_eq_nil hpart.le_of_mem, List.nil_append, ← ih]
    rfl

theorem length_utf8EncodeChar_pos (c : Char) : 0 < (String.utf8EncodeChar c).length := by
  obtain ⟨a, more, hbytes, -⟩ := first_utf8EncodeChar c []
  rw [hbytes]
  exact Nat.succ_pos _

/-- Every character takes at least one byte. -/
theorem Cut.length_le {bytes : List UInt8} {cs : List Char} (h : Cut bytes cs) :
    cs.length ≤ bytes.length := by
  induction h with
  | nil => exact Nat.le_refl 0
  | char c hrest ih =>
    have := length_utf8EncodeChar_pos c
    rw [List.length_append, List.length_cons]
    omega
  | replaced hpart hrest ih =>
    have := List.length_pos_iff.mpr hpart.ne_nil
    rw [List.length_append, List.length_cons]
    omega

/-- A NUL is not invented. -/
theorem zero_notMem_encode_decodeLossy {bytes : List UInt8} (h : 0 ∉ bytes) :
    0 ∉ encode (decodeLossy bytes) := by
  rw [zero_mem_encode, toList_decodeLossy]
  intro hmem
  have hascii : '\x00' ∈ asciiOf bytes := by
    rw [← (cut_lossy bytes).ascii]
    exact List.mem_filter.mpr ⟨hmem, rfl⟩
  obtain ⟨byte, hbyte, hchar⟩ := List.mem_map.mp hascii
  obtain ⟨hbyte, hlt⟩ := List.mem_filter.mp hbyte
  have hlt : byte.toNat < 0x80 := UInt8.lt_iff_toNat_lt.mp (of_decide_eq_true hlt)
  have hzero : byte.toNat = 0 := by
    have hvalue := congrArg Char.toNat hchar
    rwa [toNat_ofNat (by omega)] at hvalue
  refine h ?_
  rwa [show byte = 0 from UInt8.toNat_inj.mp hzero] at hbyte

end Utf8
end Text

/-! ## Texts behind pointers -/

open Text

/-- What is read from a buffer, said of the bytes before its first NUL. -/
structure ReadsFaithfully (buffer : Buffer) (text : String) : Prop where
  /-- Whatever stands behind the first NUL, only the bytes before it are read. -/
  upToNul : ∀ bytes behind, 0 ∉ bytes → buffer = bytes ++ 0 :: behind →
    buffer.visible = bytes ∧ text = readText (some bytes)
  /-- Each character stays, each maximal ill-formed part is replaced, and there is nothing else. -/
  cut : ∀ cs, Utf8.Cut buffer.visible cs ↔ cs = text.toList
  /-- A text is read as it is. -/
  encoded : ∀ s, buffer.visible = Utf8.encode s → text = s
  /-- The ASCII characters are the bytes below 128: none is lost and none is invented. -/
  ascii : text.toList.filter Utf8.isAscii = Utf8.asciiOf buffer.visible
  /-- What follows a text is read by itself. -/
  behind : ∀ s bytes, buffer.visible = Utf8.encode s ++ bytes → text = s ++ readText (some bytes)
  length_le : text.length ≤ buffer.visible.length
  eq_empty : text = "" → buffer.visible = []
  /-- Reading what has been read changes nothing any more. -/
  again : readText (some (Utf8.encode text)) = text

/-- **Every buffer reads as text, and nothing of it is lost but the ill-formed parts.** -/
theorem readText_faithful (buffer : Buffer) : ReadsFaithfully buffer (readText (some buffer)) := by
  have hchars : (readText (some buffer)).toList = Utf8.lossyChars buffer.visible :=
    Utf8.toList_decodeLossy buffer.visible
  have hcut := Utf8.cut_lossy buffer.visible
  refine ⟨?_, fun cs => ⟨fun h => ?_, fun h => ?_⟩, fun s => readText_of_visible, ?_, ?_, ?_, ?_,
    ?_⟩
  · rintro bytes behind hzero rfl
    have hvisible := Buffer.visible_append_zero hzero behind
    refine ⟨hvisible, ?_⟩
    rw [readText, readText, hvisible, Buffer.visible_of_notMem hzero]
  · rw [h.eq_lossy, hchars]
  · rwa [h, hchars]
  · rw [hchars, hcut.ascii]
  · intro s bytes hvisible
    have hzero : 0 ∉ bytes := fun hmem =>
      buffer.zero_notMem_visible (hvisible ▸ List.mem_append_right _ hmem)
    rw [← String.toList_inj, hchars, hvisible, Utf8.encode, Utf8.lossyChars_encodeChars_append,
      String.toList_append, readText, Buffer.visible_of_notMem hzero, Utf8.toList_decodeLossy]
  · rw [← String.length_toList, hchars]
    exact hcut.length_le
  · exact fun h => readText_eq_empty_iff.mp h buffer rfl
  · exact readText_of_visible (Buffer.visible_of_notMem
      (Utf8.zero_notMem_encode_decodeLossy buffer.zero_notMem_visible))

/-- A sequence that breaks off does not swallow the letter that breaks it off. -/
example : readText (some [0xE2, 0x82, 0x41, 0xC0, 0x80]) = "\uFFFDA\uFFFD\uFFFD" := by
  decide +kernel

end FailOpen
