import FailOpen.Proofs.Json.Reading
import FailOpen.Proofs.Json.Skipping
import FailOpen.Startup.Document

/-!
# The values of settings

A setting is given by one value of a document: a text by a string, a port by an integer literal, and
the backend port by such a literal or by null.  `Partial.put?` says so for documents, and `Reads`
relates it to what is read from texts: exactly the values that mean something are read, with the
blanks before them.

* `port_eq_ok_iff` is about numbers: a literal with a sign, a fraction or an exponent is no port,
  and neither is one beyond sixteen bits, however it is rounded.
* `reads_setting` puts the readers of all settings together.
-/

namespace FailOpen

open Json (Tree Numeral Spells Stops Blank)

/-! ## Ports -/

namespace Json

/-- A port or null. -/
def Tree.optionalWord? : Tree → Option (Option UInt16)
  | .null => some none
  | tree => tree.word?.map some

/-- Digits make a number no smaller than the one before them. -/
theorem le_foldl_digits (digits : List Char) (n : Nat) :
    n ≤ digits.foldl (fun n c => n * 10 + digitValue c) n := by
  induction digits generalizing n with
  | nil => exact Nat.le_refl n
  | cons c digits ih =>
    have hgrows : n ≤ n * 10 + digitValue c := by omega
    exact Nat.le_trans hgrows (ih _)

/-- Digits that have all been taken make their number. -/
theorem absorb_fst {digits : List Char} {n : Nat} (h : (absorb n digits).2 = 0) :
    (absorb n digits).1 = digits.foldl (fun n c => n * 10 + digitValue c) n := by
  induction digits generalizing n with
  | nil => rfl
  | cons c digits ih =>
    rw [absorb] at h ⊢
    split at h
    · rename_i hfits
      rw [if_pos hfits]
      exact ih h
    · cases h

/-- The digits of a number that fits a word are all taken. -/
theorem absorb_snd {digits : List Char} {n : Nat}
    (h : digits.foldl (fun n c => n * 10 + digitValue c) n < wordBound) :
    (absorb n digits).2 = 0 := by
  induction digits generalizing n with
  | nil => rfl
  | cons c digits ih =>
    have hfits : n * 10 + digitValue c < wordBound :=
      Nat.lt_of_le_of_lt (le_foldl_digits digits _) h
    rw [absorb, if_pos hfits]
    exact ih h

/-- Only a literal without sign, fraction and exponent is read as a natural number. -/
theorem Numeral.natural?_of_value {n : Numeral} {m : Nat} (h : n.value = .ok (.natural m)) :
    (Tree.number n).natural? = some m := by
  obtain ⟨negative, whole, fraction, exponent⟩ := n
  unfold value at h
  dsimp only at h
  split at h
  · rename_i hplain
    simp only [Bool.and_eq_true, Option.isNone_iff_eq_none, decide_eq_true_eq] at hplain
    obtain ⟨⟨rfl, rfl⟩, htaken⟩ := hplain
    cases negative with
    | false =>
      obtain rfl := Number.natural.inj (Except.ok.inj h)
      exact congrArg some (absorb_fst htaken).symm
    | true =>
      rw [if_neg (by simp)] at h
      split at h <;> cases h
  · split at h <;> cases h

theorem Numeral.value_of_natural? {n : Numeral} {m : Nat}
    (h : (Tree.number n).natural? = some m) (hm : m < wordBound) : n.value = .ok (.natural m) := by
  obtain ⟨negative, whole, fraction, exponent⟩ := n
  cases negative <;> cases fraction <;> cases exponent <;> try cases h
  have htaken : (absorb 0 whole).2 = 0 := absorb_snd hm
  have hvalue : (absorb 0 whole).1 = digitsValue whole := absorb_fst htaken
  simp [value, htaken, hvalue]

end Json

namespace Startup

open Json (Number)

theorem portOfNumber_eq_ok_iff {number : Number} {port : UInt16} :
    portOfNumber number = .ok port ↔
      ∃ m, number = .natural m ∧ m < UInt16.size ∧ UInt16.ofNat m = port := by
  cases number with
  | natural n =>
    rw [portOfNumber]
    split
    · rename_i hn
      constructor
      · intro h
        exact ⟨n, rfl, hn, Except.ok.inj h⟩
      · rintro ⟨m, hm, -, rfl⟩
        rw [Number.natural.inj hm]
    · rename_i hn
      constructor
      · intro h
        cases h
      · rintro ⟨m, hm, hsize, -⟩
        exact absurd (Number.natural.inj hm ▸ hsize) hn
  | negative n => exact ⟨fun h => (by cases h), fun ⟨m, hm, _⟩ => (by cases hm)⟩
  | double x => exact ⟨fun h => (by cases h), fun ⟨m, hm, _⟩ => (by cases hm)⟩

/-- A number is a port if it is written as a natural number of sixteen bits. -/
theorem port_eq_ok_iff {n : Numeral} {port : UInt16} :
    (∃ number, n.value = .ok number ∧ portOfNumber number = .ok port) ↔
      (Tree.number n).word? = some port := by
  simp only [portOfNumber_eq_ok_iff, Tree.word?, Option.bind_eq_bind, Option.bind_eq_some_iff]
  constructor
  · rintro ⟨_, hvalue, m, rfl, hm, rfl⟩
    exact ⟨m, Numeral.natural?_of_value hvalue, by rw [if_pos hm]⟩
  · rintro ⟨m, hnatural, h⟩
    split at h
    · rename_i hm
      have hword : m < Json.wordBound := Nat.lt_trans hm (by decide)
      exact ⟨_, Numeral.value_of_natural? hnatural hword, m, rfl, hm, Option.some.inj h⟩
    · cases h

/-! ## Readers -/

theorem scanned_eq_ok_iff {α : Type} {result : Except Json.ScanFault α} {a : α} :
    scanned result = .ok a ↔ result = .ok a := by
  cases result with
  | error fault => exact ⟨fun h => (by cases h), fun h => (by cases h)⟩
  | ok found => exact ⟨fun h => congrArg _ (Except.ok.inj h), fun h => congrArg _ (Except.ok.inj h)⟩

theorem mapError_eq_ok_iff {ε ε' α : Type} {f : ε → ε'} {result : Except ε α} {a : α} :
    result.mapError f = .ok a ↔ result = .ok a := by
  cases result with
  | error fault => exact ⟨fun h => (by cases h), fun h => (by cases h)⟩
  | ok found => exact ⟨fun h => congrArg _ (Except.ok.inj h), fun h => congrArg _ (Except.ok.inj h)⟩

/-- A value of the wrong type is never read. -/
theorem wrongType_ne_ok {α : Type} {expected : Expected} {cs : List Char} {a : α} :
    wrongType expected cs ≠ .ok a := by
  intro h
  obtain ⟨found, -, h⟩ := Json.bind_eq_ok.mp h
  cases h

/-- A reader takes the values that mean something, each with the blanks before it, and yields what
they mean. -/
structure Reads {α : Type} (reader : List Char → Except DocumentFault (α × List Char))
    (meaning : Tree → Option α) : Prop where
  sound : ∀ {cs rest a}, reader cs = .ok (a, rest) → ∃ blank value tree,
    cs = blank ++ (value ++ rest) ∧ Blank blank ∧ Spells value tree ∧ meaning tree = some a
  complete : ∀ {blank value rest tree a}, Blank blank → Spells value tree → Stops rest →
    meaning tree = some a → reader (blank ++ (value ++ rest)) = .ok (a, rest)

theorem Reads.map {α β : Type} {reader : List Char → Except DocumentFault (α × List Char)}
    {meaning : Tree → Option α} (h : Reads reader meaning) (f : α → β) :
    Reads (fun cs => do
      let (value, rest) ← reader cs
      return (f value, rest)) fun tree => (meaning tree).map f where
  sound hread := by
    obtain ⟨⟨a, r⟩, hfound, hread⟩ := Json.bind_eq_ok.mp hread
    obtain ⟨rfl, rfl⟩ := Prod.mk.inj (Except.ok.inj hread)
    obtain ⟨blank, value, tree, hcs, hblank, hvalue, hmeaning⟩ := h.sound hfound
    exact ⟨blank, value, tree, hcs, hblank, hvalue, by rw [hmeaning]; rfl⟩
  complete hblank hvalue hrest hmeaning := by
    obtain ⟨a, ha, rfl⟩ := Option.map_eq_some_iff.mp hmeaning
    rw [h.complete hblank hvalue hrest ha]
    rfl

theorem reads_text : Reads readText Tree.text? where
  sound {cs rest s} h := by
    unfold readText at h
    split at h
    · rename_i cs' hquote
      obtain ⟨⟨text, r⟩, hstring, h⟩ := Json.bind_eq_ok.mp h
      obtain ⟨rfl, rfl⟩ := Prod.mk.inj (Except.ok.inj h)
      obtain ⟨blank, hblank, rfl⟩ := Json.exists_blank_of_skipBlanks hquote
      obtain ⟨chars, pieces, rfl, hpieces, hdecode⟩ :=
        Json.scanString_eq_ok_iff.mp (scanned_eq_ok_iff.mp hstring)
      refine ⟨blank, '"' :: (chars ++ ['"']), _, by simp, hblank, .text hpieces, ?_⟩
      rw [Tree.text?, Json.Piece.text?, hdecode]
      rfl
    · exact absurd h wrongType_ne_ok
  complete {blank value rest tree s} hblank hvalue _ hmeaning := by
    cases hvalue with
    | @text chars pieces hpieces =>
      obtain ⟨text, hdecode, rfl⟩ := Option.map_eq_some_iff.mp hmeaning
      have hstring : Json.scanString (chars ++ '"' :: rest) = .ok (text, rest) :=
        Json.scanString_eq_ok_iff.mpr ⟨chars, pieces, rfl, hpieces, hdecode⟩
      have htext : blank ++ ('"' :: (chars ++ ['"']) ++ rest) =
          blank ++ '"' :: (chars ++ '"' :: rest) := by simp
      rw [htext, readText, hblank.skip_append rfl]
      simp only [hstring]
      rfl
    | _ => cases hmeaning

theorem readNumber_eq_ok_iff {cs rest : List Char} {number : Number} :
    readNumber cs = .ok (number, rest) ↔
      ∃ n, Json.numeral .endOfText cs = .ok (n, rest) ∧ n.value = .ok number := by
  simp only [readNumber, Json.bind_eq_ok, scanned_eq_ok_iff, Prod.exists]
  constructor
  · rintro ⟨n, r, hn, other, hvalue, h⟩
    obtain ⟨rfl, rfl⟩ := Prod.mk.inj (Except.ok.inj h)
    exact ⟨n, hn, hvalue⟩
  · rintro ⟨n, hn, hvalue⟩
    exact ⟨n, rest, hn, number, hvalue, rfl⟩

theorem reads_port : Reads readPort Tree.word? where
  sound {cs rest port} h := by
    unfold readPort at h
    split at h
    · cases h
    rename_i c cs' hfirst
    split at h
    · obtain ⟨⟨number, r⟩, hnumber, h⟩ := Json.bind_eq_ok.mp h
      obtain ⟨port', hport, h⟩ := Json.bind_eq_ok.mp h
      obtain ⟨rfl, rfl⟩ := Prod.mk.inj (Except.ok.inj h)
      obtain ⟨n, hn, hvalue⟩ := readNumber_eq_ok_iff.mp hnumber
      obtain ⟨chars, hchars, hspelled⟩ := Json.SpellsNumeral.of_numeral hn
      obtain ⟨blank, hblank, hcs, -⟩ := Json.exists_blank cs
      exact ⟨blank, chars, .number n, by rw [hcs, hfirst, hchars], hblank, .number hspelled,
        port_eq_ok_iff.mp ⟨number, hvalue, mapError_eq_ok_iff.mp hport⟩⟩
    · exact absurd h wrongType_ne_ok
  complete {blank value rest tree port} hblank hvalue hrest hmeaning := by
    cases tree with
    | number n =>
      obtain ⟨number, hnumber, hport⟩ := port_eq_ok_iff.mpr hmeaning
      obtain ⟨c, more, rfl, hkind⟩ := hvalue.head
      cases hvalue with
      | number hn =>
        have hread : readNumber (c :: more ++ rest) = .ok (number, rest) :=
          readNumber_eq_ok_iff.mpr ⟨n, hn.numeral hrest, hnumber⟩
        rw [List.cons_append] at hread ⊢
        rw [readPort, hblank.skip_append (Json.not_isBlank_of_kindOf? hkind)]
        simp only [Json.beginsNumber_of_kindOf? hkind, if_true, hread, Json.ok_bind, hport]
        rfl
    | _ => cases hmeaning

theorem readPort_skipBlanks (cs : List Char) : readPort (Json.skipBlanks cs) = readPort cs := by
  unfold readPort
  rw [Json.skipBlanks_skipBlanks]

theorem optionalWord?_of_word? {tree : Tree} {port : UInt16} (h : tree.word? = some port) :
    tree.optionalWord? = some (some port) := by
  cases tree with
  | null => cases h
  | _ => exact congrArg (Option.map some) h

theorem reads_optionalPort : Reads readOptionalPort Tree.optionalWord? where
  sound {cs rest port} h := by
    unfold readOptionalPort at h
    split at h
    · rename_i cs' hnull
      obtain ⟨r, hliteral, h⟩ := Json.bind_eq_ok.mp h
      obtain ⟨rfl, rfl⟩ := Prod.mk.inj (Except.ok.inj h)
      obtain ⟨blank, hblank, rfl⟩ := Json.exists_blank_of_skipBlanks hnull
      obtain rfl := Json.literal_eq_ok_iff.mp (scanned_eq_ok_iff.mp hliteral)
      exact ⟨blank, ['n', 'u', 'l', 'l'], .null, rfl, hblank, .null, rfl⟩
    · obtain ⟨⟨found, r⟩, hport, h⟩ := Json.bind_eq_ok.mp h
      obtain ⟨rfl, rfl⟩ := Prod.mk.inj (Except.ok.inj h)
      rw [readPort_skipBlanks] at hport
      obtain ⟨blank, value, tree, hcs, hblank, hvalue, hword⟩ := reads_port.sound hport
      exact ⟨blank, value, tree, hcs, hblank, hvalue, optionalWord?_of_word? hword⟩
  complete {blank value rest tree port} hblank hvalue hrest hmeaning := by
    cases tree with
    | null =>
      obtain rfl := Option.some.inj hmeaning
      cases hvalue
      rw [List.cons_append, readOptionalPort, hblank.skip_append rfl]
      rfl
    | number n =>
      obtain ⟨found, hword, rfl⟩ := Option.map_eq_some_iff.mp hmeaning
      have hread := reads_port.complete hblank hvalue hrest hword
      obtain ⟨c, more, rfl, hkind⟩ := hvalue.head
      rw [← readPort_skipBlanks] at hread
      unfold readOptionalPort
      split
      · rename_i cs' hnull
        -- a number does not begin like null
        rw [List.cons_append, hblank.skip_append (Json.not_isBlank_of_kindOf? hkind)] at hnull
        obtain ⟨rfl, -⟩ := List.cons.inj hnull
        cases hkind
      · rw [hread]
        rfl
    | _ => cases hmeaning

/-! ## Settings -/

/-- The settings found so far and one more, if the value is of its kind. -/
def Partial.put? (found : Partial) (setting : Setting) (tree : Tree) : Option Partial :=
  match setting with
  | .url => tree.text?.map fun value => { found with url := some value }
  | .apiKey => tree.text?.map fun value => { found with apiKey := some value }
  | .backendPort => tree.optionalWord?.map fun value => { found with backendPort := some value }
  | .collectorPort => tree.word?.map fun value => { found with collectorPort := some value }
  | .logLevel => tree.text?.map fun value => { found with logLevel := some value }
  | .encryptionKey => tree.text?.map fun value => { found with encryptionKey := some value }

theorem reads_setting (found : Partial) (setting : Setting) :
    Reads (found.readSetting setting) (found.put? setting) := by
  cases setting with
  | url => exact reads_text.map fun value => { found with url := some value }
  | apiKey => exact reads_text.map fun value => { found with apiKey := some value }
  | backendPort =>
    exact reads_optionalPort.map fun value => { found with backendPort := some value }
  | collectorPort => exact reads_port.map fun value => { found with collectorPort := some value }
  | logLevel => exact reads_text.map fun value => { found with logLevel := some value }
  | encryptionKey => exact reads_text.map fun value => { found with encryptionKey := some value }

end Startup
end FailOpen
