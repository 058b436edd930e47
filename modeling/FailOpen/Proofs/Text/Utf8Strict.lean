import FailOpen.Proofs.Text.Utf8

/-!
# Strict decoding accepts encodings only

A byte string decodes strictly to a text exactly if it is the encoding of that text.

* `utf8EncodeChar_of_first` is the step: a well-formed piece is the encoding of its character.
* `eq_encodeChars_of_chunks` is the run, by induction on the characters.
* `decode?_eq_some_iff` follows for whole texts.
-/

namespace FailOpen
namespace Text
namespace Utf8

/-! ## Well-formed pieces -/

section

variable {a b c d : UInt8}

theorem lead?_none (h : a.toNat < 0xC2 ∨ 0xF4 < a.toNat) : lead? a = none := by
  simp only [lead?, UInt8.le_iff_toNat_le, ← UInt8.toNat_inj, UInt8.toNat_ofNat]
  grind

/-- The leads by the number of bytes that follow. -/
theorem lead?_cases {lead : Lead} (h : lead? a = some lead) :
    (0xC2 ≤ a.toNat ∧ a.toNat ≤ 0xDF ∧ lead = ⟨1, 0x80, 0xBF⟩) ∨
      (0xE0 ≤ a.toNat ∧ a.toNat ≤ 0xEF ∧
        lead = ⟨2, if a.toNat = 0xE0 then 0xA0 else 0x80, if a.toNat = 0xED then 0x9F else 0xBF⟩) ∨
      (0xF0 ≤ a.toNat ∧ a.toNat ≤ 0xF4 ∧
        lead = ⟨3, if a.toNat = 0xF0 then 0x90 else 0x80,
          if a.toNat = 0xF4 then 0x8F else 0xBF⟩) := by
  by_cases htwo : 0xC2 ≤ a.toNat ∧ a.toNat ≤ 0xDF
  · rw [lead?_two htwo.1 htwo.2] at h
    exact .inl ⟨htwo.1, htwo.2, (Option.some.inj h).symm⟩
  by_cases hthree : 0xE0 ≤ a.toNat ∧ a.toNat ≤ 0xEF
  · rw [lead?_three hthree.1 hthree.2] at h
    exact .inr (.inl ⟨hthree.1, hthree.2, (Option.some.inj h).symm⟩)
  by_cases hfour : 0xF0 ≤ a.toNat ∧ a.toNat ≤ 0xF4
  · rw [lead?_four hfour.1 hfour.2] at h
    exact .inr (.inr ⟨hfour.1, hfour.2, (Option.some.inj h).symm⟩)
  · rw [lead?_none (by omega)] at h
    cases h

theorem toNat_ofNat {n : Nat} (h : n < 0xD800 ∨ 0xDFFF < n ∧ n < 0x110000) :
    (Char.ofNat n).toNat = n := by
  rw [Char.ofNat, dif_pos h]
  rfl

theorem eq_byte {n : Nat} (h : a.toNat = n) : a = .ofNat n := by
  rw [← h, UInt8.ofNat_toNat]

theorem utf8EncodeChar_of_ascii (h : a.toNat < 0x80) :
    String.utf8EncodeChar (Char.ofNat a.toNat) = [a] := by
  rw [utf8EncodeChar_eq, toNat_ofNat (by omega)]
  dsimp only
  rw [if_pos (by omega), UInt8.ofNat_toNat]

theorem utf8EncodeChar_char2 (ha : 0xC2 ≤ a.toNat) (ha' : a.toNat ≤ 0xDF)
    (hb : 0x80 ≤ b.toNat) (hb' : b.toNat ≤ 0xBF) :
    String.utf8EncodeChar (char2 a b) = [a, b] := by
  rw [utf8EncodeChar_eq, char2, payload, toNat_ofNat (by omega)]
  dsimp only
  rw [if_neg (by omega), if_pos (by omega), ← eq_byte (a := a) (by omega),
    ← eq_byte (a := b) (by omega)]

theorem utf8EncodeChar_char3 (ha : 0xE0 ≤ a.toNat) (ha' : a.toNat ≤ 0xEF)
    (hb : (if a.toNat = 0xE0 then 0xA0 else 0x80) ≤ b.toNat)
    (hb' : b.toNat ≤ if a.toNat = 0xED then 0x9F else 0xBF)
    (hc : 0x80 ≤ c.toNat ∧ c.toNat ≤ 0xBF) :
    String.utf8EncodeChar (char3 a b c) = [a, b, c] := by
  have hlow : 0x80 ≤ b.toNat := by split at hb <;> omega
  have hhigh : b.toNat ≤ 0xBF := by split at hb' <;> omega
  have hn : 0x800 ≤ a.toNat % 16 * 4096 + b.toNat % 64 * 64 + c.toNat % 64 := by
    split at hb <;> omega
  have hvalid : a.toNat % 16 * 4096 + b.toNat % 64 * 64 + c.toNat % 64 < 0xD800 ∨
      0xDFFF < a.toNat % 16 * 4096 + b.toNat % 64 * 64 + c.toNat % 64 := by
    split at hb' <;> split at hb <;> omega
  rw [utf8EncodeChar_eq, char3, payload, payload, toNat_ofNat (by omega)]
  dsimp only
  rw [if_neg (by omega), if_neg (by omega), if_pos (by omega), ← eq_byte (a := a) (by omega),
    ← eq_byte (a := b) (by omega), ← eq_byte (a := c) (by omega)]

theorem utf8EncodeChar_char4 (ha : 0xF0 ≤ a.toNat) (ha' : a.toNat ≤ 0xF4)
    (hb : (if a.toNat = 0xF0 then 0x90 else 0x80) ≤ b.toNat)
    (hb' : b.toNat ≤ if a.toNat = 0xF4 then 0x8F else 0xBF)
    (hc : 0x80 ≤ c.toNat ∧ c.toNat ≤ 0xBF) (hd : 0x80 ≤ d.toNat ∧ d.toNat ≤ 0xBF) :
    String.utf8EncodeChar (char4 a b c d) = [a, b, c, d] := by
  have hlow : 0x80 ≤ b.toNat := by split at hb <;> omega
  have hhigh : b.toNat ≤ 0xBF := by split at hb' <;> omega
  have hn : 0x10000 ≤
      a.toNat % 8 * 262144 + b.toNat % 64 * 4096 + c.toNat % 64 * 64 + d.toNat % 64 := by
    split at hb <;> omega
  have hvalid :
      a.toNat % 8 * 262144 + b.toNat % 64 * 4096 + c.toNat % 64 * 64 + d.toNat % 64 < 0x110000 := by
    split at hb' <;> split at hb <;> omega
  rw [utf8EncodeChar_eq, char4, payload, payload, payload, toNat_ofNat (by omega)]
  dsimp only
  rw [if_neg (by omega), if_neg (by omega), if_neg (by omega), ← eq_byte (a := a) (by omega),
    ← eq_byte (a := b) (by omega), ← eq_byte (a := c) (by omega), ← eq_byte (a := d) (by omega)]

/-- A well-formed piece is the encoding of its character. -/
theorem utf8EncodeChar_of_first {rest : List UInt8} {character : Char} {n : Nat}
    (h : first a rest = (.char character, n)) :
    String.utf8EncodeChar character = a :: rest.take n := by
  unfold first at h
  split at h
  · next hascii =>
    obtain ⟨rfl, rfl⟩ : Char.ofNat a.toNat = character ∧ 0 = n := by simpa using h
    exact utf8EncodeChar_of_ascii (UInt8.lt_iff_toNat_lt.mp hascii)
  split at h
  · cases h
  · cases h
  next lead b rest hlead =>
  split at h
  · cases h
  next hbounds =>
  obtain ⟨hlow, hhigh⟩ := Decidable.not_not.mp hbounds
  rw [UInt8.le_iff_toNat_le] at hlow hhigh
  -- the lead says how many bytes there are, and bounds the second
  rcases lead?_cases hlead with ⟨ha, ha', rfl⟩ | ⟨ha, ha', rfl⟩ | ⟨ha, ha', rfl⟩
  · obtain ⟨rfl, rfl⟩ : char2 a b = character ∧ 1 = n := by simpa using h
    exact utf8EncodeChar_char2 ha ha' hlow hhigh
  · dsimp only at hlow hhigh h
    rw [apply_ite UInt8.toNat] at hlow hhigh
    rw [if_neg (by decide)] at h
    split at h
    · cases h
    split at h
    · cases h
    next hc =>
    obtain ⟨rfl, rfl⟩ : char3 a b _ = character ∧ 2 = n := by simpa using h
    exact utf8EncodeChar_char3 ha ha' hlow hhigh (isContinuation_iff.mp (Decidable.not_not.mp hc))
  · dsimp only at hlow hhigh h
    rw [apply_ite UInt8.toNat] at hlow hhigh
    rw [if_neg (by decide)] at h
    split at h
    · cases h
    split at h
    · cases h
    next hc =>
    rw [if_neg (by decide)] at h
    split at h
    · cases h
    split at h
    · cases h
    next hd =>
    obtain ⟨rfl, rfl⟩ : char4 a b _ _ = character ∧ 3 = n := by simpa using h
    exact utf8EncodeChar_char4 ha ha' hlow hhigh (isContinuation_iff.mp (Decidable.not_not.mp hc))
      (isContinuation_iff.mp (Decidable.not_not.mp hd))

end

/-! ## Byte strings -/

theorem chunksAfter_eq_drop (skip : Nat) (bytes : List UInt8) :
    chunksAfter skip bytes = chunks (bytes.drop skip) := by
  induction bytes generalizing skip with
  | nil => cases skip <;> rfl
  | cons b bytes ih =>
    cases skip with
    | zero => rfl
    | succ skip => exact ih skip

/-- A byte string that is cut into characters only is their encoding. -/
theorem eq_encodeChars_of_chunks {bytes : List UInt8} {cs : List Char}
    (h : chunks bytes = cs.map .char) : bytes = encodeChars cs := by
  induction cs generalizing bytes with
  | nil =>
    cases bytes with
    | nil => rfl
    | cons a rest => cases h
  | cons c cs ih =>
    cases bytes with
    | nil => cases h
    | cons a rest =>
      rw [chunks, chunksAfter, chunksAfter_eq_drop, List.map_cons, List.cons.injEq] at h
      obtain ⟨hfirst, hrest⟩ := h
      calc a :: rest
        _ = a :: rest.take (first a rest).2 ++ rest.drop (first a rest).2 := by
          rw [List.cons_append, List.take_append_drop]
        _ = String.utf8EncodeChar c ++ encodeChars cs := by
          rw [utf8EncodeChar_of_first (Prod.ext hfirst rfl), ← ih hrest]

theorem mapM_char?_eq_some_iff {pieces : List Chunk} {cs : List Char} :
    pieces.mapM Chunk.char? = some cs ↔ pieces = cs.map .char := by
  induction pieces generalizing cs with
  | nil => cases cs <;> simp
  | cons piece pieces ih =>
    rw [List.mapM_cons]
    cases piece with
    | invalid bytes => cases cs <;> simp [Chunk.char?]
    | char c =>
      cases hpieces : pieces.mapM Chunk.char? with
      | none =>
        have hrest : ∀ cs : List Char, pieces ≠ cs.map .char := fun cs h => by
          rw [ih.mpr h] at hpieces
          cases hpieces
        cases cs <;> simp [Chunk.char?, hrest]
      | some ds =>
        rw [ih.mp hpieces]
        cases cs <;> simp [Chunk.char?, List.map_inj_right]

/-- Strict decoding accepts exactly the encodings. -/
theorem decode?_eq_some_iff {bytes : List UInt8} {s : String} :
    decode? bytes = some s ↔ bytes = encode s := by
  rw [decode?, Option.map_eq_some_iff]
  constructor
  · rintro ⟨cs, hcs, rfl⟩
    rw [encode, String.toList_ofList]
    exact eq_encodeChars_of_chunks (mapM_char?_eq_some_iff.mp hcs)
  · rintro rfl
    refine ⟨s.toList, ?_, String.ofList_toList⟩
    exact mapM_char?_eq_some_iff.mpr (chunks_encode s)

theorem decode?_eq_none_iff {bytes : List UInt8} :
    decode? bytes = none ↔ ∀ s, bytes ≠ encode s := by
  rw [Option.eq_none_iff_forall_ne_some]
  exact forall_congr' fun s => not_congr decode?_eq_some_iff

end Utf8
end Text
end FailOpen
