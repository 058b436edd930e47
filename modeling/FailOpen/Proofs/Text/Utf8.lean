import FailOpen.Text.Utf8

/-!
# Encoded text reads back

The bytes of a text are cut into exactly its characters, whatever follows them, so lossy decoding
gives the text back.

* `first_utf8EncodeChar` is the step: the first piece of the bytes of a character, and of anything
  behind them, is that character.
* `chunks_encodeChars_append` is the run, by induction on the characters.
* `decodeLossy_encode` follows for whole texts, and `zero_mem_encode` says which of them have a zero
  byte.

Nothing is said here about bytes that are not the encoding of a text, except that lossy decoding
makes a text of them that is not empty.
-/

namespace FailOpen
namespace Text
namespace Utf8

/-! ## Well-formed sequences -/

section

variable {a b c d : UInt8} {lead : Lead}

/-- The lead of a sequence of two bytes. -/
theorem lead?_two (hlow : 0xC2 ≤ a.toNat) (hhigh : a.toNat ≤ 0xDF) :
    lead? a = some ⟨1, 0x80, 0xBF⟩ := by
  simp only [lead?, UInt8.le_iff_toNat_le, UInt8.toNat_ofNat]
  rw [if_pos (by omega)]

/-- The lead of a sequence of three bytes.  Two of them bound the byte that comes next. -/
theorem lead?_three (hlow : 0xE0 ≤ a.toNat) (hhigh : a.toNat ≤ 0xEF) :
    lead? a = some ⟨2, if a.toNat = 0xE0 then 0xA0 else 0x80,
      if a.toNat = 0xED then 0x9F else 0xBF⟩ := by
  simp only [lead?, UInt8.le_iff_toNat_le, ← UInt8.toNat_inj, UInt8.toNat_ofNat]
  grind

/-- The lead of a sequence of four bytes.  Two of them bound the byte that comes next. -/
theorem lead?_four (hlow : 0xF0 ≤ a.toNat) (hhigh : a.toNat ≤ 0xF4) :
    lead? a = some ⟨3, if a.toNat = 0xF0 then 0x90 else 0x80,
      if a.toNat = 0xF4 then 0x8F else 0xBF⟩ := by
  simp only [lead?, UInt8.le_iff_toNat_le, ← UInt8.toNat_inj, UInt8.toNat_ofNat]
  grind

theorem isContinuation_iff : isContinuation b ↔ 0x80 ≤ b.toNat ∧ b.toNat ≤ 0xBF := by
  simp [isContinuation, UInt8.le_iff_toNat_le]

theorem first_of_ascii (h : a.toNat < 0x80) (rest : List UInt8) :
    first a rest = (.char (Char.ofNat a.toNat), 0) := by
  have hlt : a < 0x80 := UInt8.lt_iff_toNat_lt.mpr h
  simp only [first, if_pos hlt]

variable (hlead : lead? a = some lead) (hascii : 0x80 ≤ a.toNat)
  (hlow : lead.low.toNat ≤ b.toNat) (hhigh : b.toNat ≤ lead.high.toNat)

include hlead hascii hlow hhigh

theorem first_of_two (hcount : lead.continuations = 1) (rest : List UInt8) :
    first a (b :: rest) = (.char (char2 a b), 1) := by
  have hnot : ¬ a < 0x80 := by rw [UInt8.lt_iff_toNat_lt]; exact Nat.not_lt.mpr hascii
  rw [← UInt8.le_iff_toNat_le] at hlow hhigh
  simp [first, hnot, hlead, hlow, hhigh, hcount]

theorem first_of_three (hcount : lead.continuations = 2) (hc : isContinuation c)
    (rest : List UInt8) : first a (b :: c :: rest) = (.char (char3 a b c), 2) := by
  have hnot : ¬ a < 0x80 := by rw [UInt8.lt_iff_toNat_lt]; exact Nat.not_lt.mpr hascii
  rw [← UInt8.le_iff_toNat_le] at hlow hhigh
  simp [first, hnot, hlead, hlow, hhigh, hcount, hc]

theorem first_of_four (hcount : lead.continuations = 3) (hc : isContinuation c)
    (hd : isContinuation d) (rest : List UInt8) :
    first a (b :: c :: d :: rest) = (.char (char4 a b c d), 3) := by
  have hnot : ¬ a < 0x80 := by rw [UInt8.lt_iff_toNat_lt]; exact Nat.not_lt.mpr hascii
  rw [← UInt8.le_iff_toNat_le] at hlow hhigh
  simp [first, hnot, hlead, hlow, hhigh, hcount, hc, hd]

end

/-! ## Characters -/

section

variable {n : Nat}

theorem toNat_byte (h : n < 256) : (UInt8.ofNat n).toNat = n :=
  UInt8.toNat_ofNat_of_lt' h

/-- The low six bits of a number as a continuation byte. -/
theorem toNat_continuation (n : Nat) : (UInt8.ofNat (n % 64 + 128)).toNat = n % 64 + 128 :=
  toNat_byte (by omega)

theorem isContinuation_continuation (n : Nat) : isContinuation (UInt8.ofNat (n % 64 + 128)) := by
  rw [isContinuation_iff, toNat_continuation]
  omega

/-- A number that takes two bytes. -/
theorem first_two (hlow : 0x80 ≤ n) (hhigh : n < 0x800) (rest : List UInt8) :
    first (.ofNat (n / 64 % 32 + 192)) (.ofNat (n % 64 + 128) :: rest) =
      (.char (Char.ofNat n), 1) := by
  have ha : (UInt8.ofNat (n / 64 % 32 + 192)).toNat = n / 64 + 192 := by
    rw [toNat_byte (by omega), Nat.mod_eq_of_lt (by omega)]
  have hb := toNat_continuation n
  rw [first_of_two (lead?_two (by omega) (by omega)) (by omega) ?_ ?_ rfl, char2, payload, ha, hb]
  · have hn : (n / 64 + 192) % 32 * 64 + (n % 64 + 128) % 64 = n := by omega
    rw [hn]
  · rw [hb]
    exact Nat.le_add_left _ _
  · rw [hb]
    show n % 64 + 128 ≤ 0xBF
    omega

/-- A number that takes three bytes.  The bounds of the second byte hold because the number is not
smaller, and no surrogate. -/
theorem first_three (hlow : 0x800 ≤ n) (hhigh : n < 0x10000) (hvalid : n < 0xD800 ∨ 0xDFFF < n)
    (rest : List UInt8) :
    first (.ofNat (n / 4096 % 16 + 224))
        (.ofNat (n / 64 % 64 + 128) :: .ofNat (n % 64 + 128) :: rest) =
      (.char (Char.ofNat n), 2) := by
  have ha : (UInt8.ofNat (n / 4096 % 16 + 224)).toNat = n / 4096 + 224 := by
    rw [toNat_byte (by omega), Nat.mod_eq_of_lt (by omega)]
  have hb := toNat_continuation (n / 64)
  have hc := toNat_continuation n
  rw [first_of_three (lead?_three (by omega) (by omega)) (by omega) ?_ ?_ rfl
    (isContinuation_continuation n), char3, payload, payload, ha, hb, hc]
  · have hn : (n / 4096 + 224) % 16 * 4096 + (n / 64 % 64 + 128) % 64 * 64 + (n % 64 + 128) % 64
        = n := by omega
    rw [hn]
  · rw [ha, hb]
    split
    · show 0xA0 ≤ n / 64 % 64 + 128
      omega
    · exact Nat.le_add_left _ _
  · rw [ha, hb]
    dsimp only
    split
    · show n / 64 % 64 + 128 ≤ 0x9F
      omega
    · show n / 64 % 64 + 128 ≤ 0xBF
      omega

/-- A number that takes four bytes. -/
theorem first_four (hlow : 0x10000 ≤ n) (hhigh : n < 0x110000) (rest : List UInt8) :
    first (.ofNat (n / 262144 % 8 + 240)) (.ofNat (n / 4096 % 64 + 128) ::
        .ofNat (n / 64 % 64 + 128) :: .ofNat (n % 64 + 128) :: rest) =
      (.char (Char.ofNat n), 3) := by
  have ha : (UInt8.ofNat (n / 262144 % 8 + 240)).toNat = n / 262144 + 240 := by
    rw [toNat_byte (by omega), Nat.mod_eq_of_lt (by omega)]
  have hb := toNat_continuation (n / 4096)
  have hc := toNat_continuation (n / 64)
  have hd := toNat_continuation n
  rw [first_of_four (lead?_four (by omega) (by omega)) (by omega) ?_ ?_ rfl
    (isContinuation_continuation (n / 64)) (isContinuation_continuation n), char4, payload, payload,
    payload, ha, hb, hc, hd]
  · have hn : (n / 262144 + 240) % 8 * 262144 + (n / 4096 % 64 + 128) % 64 * 4096
        + (n / 64 % 64 + 128) % 64 * 64 + (n % 64 + 128) % 64 = n := by omega
    rw [hn]
  · rw [ha, hb]
    split
    · show 0x90 ≤ n / 4096 % 64 + 128
      omega
    · exact Nat.le_add_left _ _
  · rw [ha, hb]
    dsimp only
    split
    · show n / 4096 % 64 + 128 ≤ 0x8F
      omega
    · show n / 4096 % 64 + 128 ≤ 0xBF
      omega

end

/-- The bytes of a character by its number. -/
theorem utf8EncodeChar_eq (c : Char) :
    String.utf8EncodeChar c =
      let n := c.toNat
      if n ≤ 0x7F then [.ofNat n]
      else if n ≤ 0x7FF then [.ofNat (n / 64 % 32 + 192), .ofNat (n % 64 + 128)]
      else if n ≤ 0xFFFF then
        [.ofNat (n / 4096 % 16 + 224), .ofNat (n / 64 % 64 + 128), .ofNat (n % 64 + 128)]
      else
        [.ofNat (n / 262144 % 8 + 240), .ofNat (n / 4096 % 64 + 128), .ofNat (n / 64 % 64 + 128),
          .ofNat (n % 64 + 128)] := rfl

/-- The first piece of the bytes of a character is that character, whatever follows them. -/
theorem first_utf8EncodeChar (c : Char) (rest : List UInt8) :
    ∃ a more, String.utf8EncodeChar c = a :: more ∧
      first a (more ++ rest) = (.char c, more.length) := by
  have hvalid : c.toNat < 0xD800 ∨ 0xDFFF < c.toNat ∧ c.toNat < 0x110000 := c.valid
  have hc : Char.ofNat c.toNat = c := Char.ofNat_toNat c
  rw [utf8EncodeChar_eq]
  dsimp only
  -- one case for each number of bytes; no character is a surrogate, which matters for three bytes
  split
  · have ha : (UInt8.ofNat c.toNat).toNat = c.toNat := toNat_byte (by omega)
    refine ⟨_, _, rfl, ?_⟩
    rw [first_of_ascii (by omega), ha, hc]
    rfl
  split
  · have hfirst := first_two (n := c.toNat) (by omega) (by omega) rest
    exact ⟨_, _, rfl, by simpa [hc] using hfirst⟩
  split
  · have hfirst := first_three (n := c.toNat) (by omega) (by omega) (by omega) rest
    exact ⟨_, _, rfl, by simpa [hc] using hfirst⟩
  · have hfirst := first_four (n := c.toNat) (by omega) (by omega) rest
    exact ⟨_, _, rfl, by simpa [hc] using hfirst⟩

/-! ## Texts -/

theorem chunksAfter_append (more rest : List UInt8) :
    chunksAfter more.length (more ++ rest) = chunksAfter 0 rest := by
  induction more with
  | nil => rfl
  | cons b more ih => exact ih

/-- The bytes of a text are cut into its characters, and what follows them is cut by itself. -/
theorem chunks_encodeChars_append (cs : List Char) (rest : List UInt8) :
    chunks (encodeChars cs ++ rest) = cs.map .char ++ chunks rest := by
  induction cs with
  | nil => rfl
  | cons c cs ih =>
    obtain ⟨a, more, hbytes, hfirst⟩ := first_utf8EncodeChar c (encodeChars cs ++ rest)
    have hcut : encodeChars (c :: cs) ++ rest = a :: (more ++ (encodeChars cs ++ rest)) := by
      rw [encodeChars, List.flatMap_cons, hbytes]
      simp [encodeChars]
    rw [hcut, chunks, chunksAfter, hfirst, chunksAfter_append]
    exact congrArg (Chunk.char c :: ·) ih

theorem chunks_encode (s : String) : chunks (encode s) = s.toList.map .char := by
  have happend := chunks_encodeChars_append s.toList []
  rwa [List.append_nil, show chunks [] = [] from rfl, List.append_nil] at happend

/-- Lossy decoding gives an encoded text back. -/
theorem decodeLossy_encode (s : String) : decodeLossy (encode s) = s := by
  rw [decodeLossy, chunks_encode, List.map_map]
  show String.ofList (s.toList.map id) = s
  rw [List.map_id, String.ofList_toList]

/-- Only nothing is decoded to nothing. -/
theorem decodeLossy_eq_empty_iff {bytes : List UInt8} : decodeLossy bytes = "" ↔ bytes = [] := by
  constructor
  · intro h
    cases bytes with
    | nil => rfl
    | cons a rest =>
      have hchars := congrArg String.toList h
      simp [decodeLossy, chunks, chunksAfter] at hchars
  · rintro rfl
    rfl

/-! ## NUL -/

/-- The only character with a zero byte is NUL: all bytes of a longer sequence are at least 128. -/
theorem zero_mem_utf8EncodeChar {c : Char} : 0 ∈ String.utf8EncodeChar c ↔ c = '\x00' := by
  have hbyte : ∀ n, n < 256 → ((0 : UInt8) = .ofNat n ↔ n = 0) := by
    intro n hn
    rw [← UInt8.toNat_inj, toNat_byte hn]
    exact eq_comm
  rw [utf8EncodeChar_eq, ← Char.toNat_inj]
  dsimp only
  split
  · rw [List.mem_singleton, hbyte _ (by omega)]
    rfl
  have hne : c.toNat ≠ Char.toNat '\x00' := by
    show c.toNat ≠ 0
    omega
  split
  · simp only [List.mem_cons, List.not_mem_nil, or_false]
    rw [hbyte _ (by omega), hbyte _ (by omega)]
    omega
  split
  · simp only [List.mem_cons, List.not_mem_nil, or_false]
    rw [hbyte _ (by omega), hbyte _ (by omega), hbyte _ (by omega)]
    omega
  · simp only [List.mem_cons, List.not_mem_nil, or_false]
    rw [hbyte _ (by omega), hbyte _ (by omega), hbyte _ (by omega), hbyte _ (by omega)]
    omega

/-- A text has a NUL in its bytes if it has one. -/
theorem zero_mem_encode {s : String} : 0 ∈ encode s ↔ '\x00' ∈ s.toList := by
  simp [encode, encodeChars, List.mem_flatMap, zero_mem_utf8EncodeChar]

end Utf8
end Text
end FailOpen
