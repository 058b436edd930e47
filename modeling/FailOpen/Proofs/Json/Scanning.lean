import FailOpen.Proofs.Json.Printed

/-!
# The scanners follow the grammar

Each scanner takes from the front of a text exactly what a rule of the grammar spells.  The laws have
two directions: what was taken is spelled as the rule wants it, and what is so spelled is taken,
whatever comes behind it.  Only a number must be followed by something that cannot be a part of it.

* `literal_eq_ok_iff`, `hex4_eq_ok_iff` and `digits1_eq_ok_iff` are the characters.
* `scanString_eq_ok_iff` and `skipString_eq_ok_iff` are the strings, which differ in their escapes:
  a string that is kept must decode, one that is skipped need not.
* `SpellsNumeral.of_numeral` and `SpellsNumeral.numeral` are the numbers.

Faults are not described: which one is reported first is a matter of the reader, not of the grammar.
-/

namespace FailOpen
namespace Json

/-- A computation succeeds if all its parts do. -/
theorem bind_eq_ok {ε α β : Type} {x : Except ε α} {f : α → Except ε β} {b : β} :
    x >>= f = .ok b ↔ ∃ a, x = .ok a ∧ f a = .ok b := by
  constructor
  · intro h
    cases x with
    | error fault => cases h
    | ok a => exact ⟨a, rfl, h⟩
  · rintro ⟨a, rfl, h⟩
    exact h

theorem ok_bind {ε α β : Type} (a : α) (f : α → Except ε β) : Except.ok a >>= f = f a := rfl

theorem throw_ne_ok {ε α : Type} {fault : ε} {a : α} : (throw fault : Except ε α) ≠ .ok a := by
  intro h
  cases h

/-! ## Characters -/

section

variable {cs rest blank : List Char}

theorem literal_eq_ok_iff {expected : List Char} :
    literal expected cs = .ok rest ↔ cs = expected ++ rest := by
  induction expected generalizing cs with
  | nil => exact ⟨fun h => Except.ok.inj h, fun h => congrArg _ h⟩
  | cons e expected ih =>
    cases cs with
    | nil => simp [literal]
    | cons c cs =>
      rw [literal]
      split
      · rename_i heq
        rw [ih, heq, List.cons_append, List.cons.injEq]
        exact ⟨fun h => ⟨rfl, h⟩, fun h => h.2⟩
      · rename_i hne
        simp [Ne.symm hne]

/-- The blanks at the front of a text are skipped, and what is left is not blank. -/
theorem exists_blank (cs : List Char) :
    ∃ blank, Blank blank ∧ cs = blank ++ skipBlanks cs ∧ Leaves isBlank (skipBlanks cs) := by
  refine ⟨cs.takeWhile isBlank, ?_, List.takeWhile_append_dropWhile.symm, ?_⟩
  · exact fun c hc => List.all_eq_true.mp (List.all_takeWhile) c hc
  · intro c hc
    have hhead := List.head?_dropWhile_not isBlank cs
    rw [show List.head? (cs.dropWhile isBlank) = some c from hc] at hhead
    simpa using hhead

theorem skipBlanks_append (hblank : Blank blank) (hrest : Leaves isBlank rest) :
    skipBlanks (blank ++ rest) = rest := by
  rw [skipBlanks, List.dropWhile_append_of_pos hblank]
  cases rest with
  | nil => rfl
  | cons c cs => rw [List.dropWhile_cons_of_neg (by simp [hrest c rfl])]

/-- Four digits that spell a UTF-16 code unit. -/
inductive SpellsUnit : List Char → Nat → Prop
  | mk {a b c d : Char} {i j k l : Nat} (ha : Text.Hex.digit? a = some i)
      (hb : Text.Hex.digit? b = some j) (hc : Text.Hex.digit? c = some k)
      (hd : Text.Hex.digit? d = some l) :
      SpellsUnit [a, b, c, d] (((i * 16 + j) * 16 + k) * 16 + l)

theorem SpellsUnit.piece {n : Nat} (h : SpellsUnit cs n) :
    SpellsPiece ('\\' :: 'u' :: cs) (.unit n) := by
  obtain ⟨ha, hb, hc, hd⟩ := h
  exact .unit ha hb hc hd

theorem hex4_eq_ok_iff {n : Nat} :
    hex4 cs = .ok n ↔ ∃ digits rest, cs = digits ++ rest ∧ SpellsUnit digits n := by
  constructor
  · intro h
    unfold hex4 at h
    split at h
    · split at h
      · rename_i ha hb hc hd
        obtain rfl := Except.ok.inj h
        exact ⟨_, _, rfl, .mk ha hb hc hd⟩
      · cases h
    · split at h <;> cases h
  · rintro ⟨digits, rest, rfl, ⟨ha, hb, hc, hd⟩⟩
    simp [hex4, ha, hb, hc, hd]

theorem SpellsUnit.hex4 {n : Nat} (h : SpellsUnit cs n) (rest : List Char) :
    hex4 (cs ++ rest) = .ok n :=
  hex4_eq_ok_iff.mpr ⟨cs, rest, rfl, h⟩

theorem SpellsUnit.length {n : Nat} (h : SpellsUnit cs n) : cs.length = 4 := by
  cases h
  rfl

end

/-! ## Strings

The two rules for escapes differ in what an escape may look like and in what it means.  What they
have in common is shown once, for any relation that says how escapes are spelled. -/

section

variable {Escape : List Char → Char → Prop} {rule : EscapeRule} {cs rest text : List Char}

/-- A rule takes exactly the escapes that are spelled in a certain way. -/
def EscapeRule.Takes (rule : EscapeRule) (Escape : List Char → Char → Prop) : Prop :=
  ∀ cs meaning length, rule cs = .ok (meaning, length) ↔
    ∃ escape rest, cs = escape ++ rest ∧ escape.length = length ∧ Escape escape meaning

/-- What stands between the quotes of a string, and the text that it makes. -/
inductive SpellsText (Escape : List Char → Char → Prop) : List Char → List Char → Prop
  | nil : SpellsText Escape [] []
  | raw {c : Char} {cs text : List Char} (hquote : c ≠ '"') (hescape : c ≠ '\\')
      (hcontrol : 0x20 ≤ c.toNat) (h : SpellsText Escape cs text) :
      SpellsText Escape (c :: cs) (c :: text)
  | escape {escape cs text : List Char} {meaning : Char} (hescape : Escape escape meaning)
      (h : SpellsText Escape cs text) :
      SpellsText Escape ('\\' :: (escape ++ cs)) (meaning :: text)

/-- Characters that have been taken as an escape are passed over. -/
theorem stringAfter_eq_drop (skip : Nat) (cs : List Char) :
    stringAfter rule skip cs = stringAfter rule 0 (cs.drop skip) := by
  induction skip generalizing cs with
  | zero => rfl
  | succ skip ih =>
    cases cs with
    | nil => rfl
    | cons c cs => exact ih cs

theorem SpellsText.stringAfter (hrule : rule.Takes Escape) (h : SpellsText Escape cs text) :
    stringAfter rule 0 (cs ++ '"' :: rest) = .ok (text, rest) := by
  induction h with
  | nil => rfl
  | raw hquote hescape hcontrol h ih =>
    rw [List.cons_append, Json.stringAfter, if_neg hquote, if_neg hescape,
      if_neg (Nat.not_lt.mpr hcontrol), ih]
  | @escape escape cs text meaning hescape h ih =>
    have htakes : rule (escape ++ (cs ++ '"' :: rest)) = .ok (meaning, escape.length) :=
      (hrule _ _ _).mpr ⟨escape, _, rfl, rfl, hescape⟩
    have hdrop : (escape ++ (cs ++ '"' :: rest)).drop escape.length = cs ++ '"' :: rest :=
      List.drop_left
    rw [List.cons_append, List.append_assoc, Json.stringAfter, if_neg (by decide), if_pos rfl]
    simp only [htakes]
    rw [stringAfter_eq_drop, hdrop, ih]

theorem SpellsText.of_stringAfter (hrule : rule.Takes Escape)
    (h : Json.stringAfter rule 0 cs = .ok (text, rest)) :
    ∃ chars, cs = chars ++ '"' :: rest ∧ SpellsText Escape chars text := by
  -- by induction on the length, since an escape is taken as a whole
  induction hlength : cs.length using Nat.strongRecOn generalizing cs text with
  | ind length ih =>
    cases cs with
    | nil => cases h
    | cons c cs =>
      rw [Json.stringAfter] at h
      split at h
      · rename_i hquote
        obtain ⟨rfl, rfl⟩ := Prod.mk.inj (Except.ok.inj h)
        exact ⟨[], congrArg (· :: cs) hquote, .nil⟩
      rename_i hquote
      split at h
      · rename_i hescape
        subst hescape
        split at h
        · cases h
        rename_i meaning taken htaken
        split at h
        · cases h
        rename_i text' rest' hothers
        obtain ⟨rfl, rfl⟩ := Prod.mk.inj (Except.ok.inj h)
        obtain ⟨escape, others, rfl, rfl, hspelled⟩ := (hrule _ _ _).mp htaken
        rw [stringAfter_eq_drop, List.drop_left] at hothers
        obtain ⟨chars, rfl, hchars⟩ := ih others.length
          (by simp only [← hlength, List.length_cons, List.length_append]; omega) hothers rfl
        exact ⟨'\\' :: (escape ++ chars), by simp, .escape hspelled hchars⟩
      rename_i hescape
      split at h
      · cases h
      rename_i hcontrol
      split at h
      · cases h
      rename_i text' rest' hothers
      obtain ⟨rfl, rfl⟩ := Prod.mk.inj (Except.ok.inj h)
      obtain ⟨chars, rfl, hchars⟩ := ih cs.length
        (by simp only [← hlength, List.length_cons]; omega) hothers rfl
      exact ⟨c :: chars, rfl, .raw hquote hescape (Nat.not_lt.mp hcontrol) hchars⟩

/-- A string is taken up to its closing quote. -/
theorem stringAfter_eq_ok_iff (hrule : rule.Takes Escape) :
    stringAfter rule 0 cs = .ok (text, rest) ↔
      ∃ chars, cs = chars ++ '"' :: rest ∧ SpellsText Escape chars text := by
  constructor
  · exact SpellsText.of_stringAfter hrule
  · rintro ⟨chars, rfl, h⟩
    exact h.stringAfter hrule

end

/-! ## Strings that are kept, and strings that are skipped -/

/-- The escapes of a string that is kept: the halves of a character stand together. -/
inductive KeptEscape : List Char → Char → Prop
  | simple {c meaning : Char} (h : simpleEscape? c = some meaning) : KeptEscape [c] meaning
  | unit {digits : List Char} {n : Nat} (h : SpellsUnit digits n)
      (htrailing : isTrailingSurrogate n = false) (hleading : isLeadingSurrogate n = false) :
      KeptEscape ('u' :: digits) (Char.ofNat n)
  | pair {digits digits' : List Char} {n m : Nat} (h : SpellsUnit digits n)
      (h' : SpellsUnit digits' m) (hleading : isLeadingSurrogate n)
      (htrailing : isTrailingSurrogate m) :
      KeptEscape ('u' :: (digits ++ '\\' :: 'u' :: digits')) (pairedChar n m)

/-- The escapes of a string that is skipped.  Their meaning is not asked for. -/
inductive SkippedEscape : List Char → Char → Prop
  | simple {c meaning : Char} (h : simpleEscape? c = some meaning) : SkippedEscape [c] meaning
  | unit {digits : List Char} {n : Nat} (h : SpellsUnit digits n) :
      SkippedEscape ('u' :: digits) '\x00'

section

variable {cs rest text : List Char}

theorem isTrailingSurrogate_of_isLeadingSurrogate {n : Nat} (h : isLeadingSurrogate n) :
    isTrailingSurrogate n = false := by
  simp only [isLeadingSurrogate, Bool.and_eq_true, decide_eq_true_eq] at h
  simp only [isTrailingSurrogate, Bool.and_eq_false_iff, decide_eq_false_iff_not]
  omega

theorem ne_unit_of_simpleEscape? {c meaning : Char} (h : simpleEscape? c = some meaning) :
    c ≠ 'u' := by
  rintro rfl
  cases h

theorem trailingSurrogate_eq_ok_iff {m : Nat} :
    trailingSurrogate cs = .ok m ↔ ∃ digits rest, cs = '\\' :: 'u' :: (digits ++ rest) ∧
      SpellsUnit digits m ∧ isTrailingSurrogate m := by
  simp only [trailingSurrogate, bind_eq_ok, literal_eq_ok_iff, hex4_eq_ok_iff]
  constructor
  · rintro ⟨_, rfl, n, ⟨digits, rest, rfl, hdigits⟩, h⟩
    split at h
    · rename_i htrailing
      obtain rfl := Except.ok.inj h
      exact ⟨digits, rest, rfl, hdigits, htrailing⟩
    · exact absurd h throw_ne_ok
  · rintro ⟨digits, rest, rfl, hdigits, htrailing⟩
    refine ⟨digits ++ rest, rfl, m, ⟨digits, rest, rfl, hdigits⟩, ?_⟩
    rw [if_pos htrailing]
    rfl

/-- What becomes of a code unit: it is a character, or half of one, or cannot stand here. -/
theorem pairedEscape_unit {n : Nat} (h : hex4 cs = .ok n) :
    pairedEscape ('u' :: cs) =
      if isTrailingSurrogate n then .error .malformed
      else if isLeadingSurrogate n then
        (trailingSurrogate (cs.drop 4)).map fun m => (pairedChar n m, 11)
      else .ok (Char.ofNat n, 5) := by
  rw [pairedEscape, h]
  cases trailingSurrogate (cs.drop 4) <;> rfl

theorem pairedEscape_takes : EscapeRule.Takes pairedEscape KeptEscape := by
  intro cs meaning length
  constructor
  · intro h
    unfold pairedEscape at h
    split at h
    · cases h
    · -- a code unit, and the other half of the character if it is the first one
      rename_i cs
      obtain ⟨n, hn, h⟩ := bind_eq_ok.mp h
      obtain ⟨digits, rest, rfl, hdigits⟩ := hex4_eq_ok_iff.mp hn
      split at h
      · exact absurd h throw_ne_ok
      rename_i htrailing
      rw [Bool.not_eq_true] at htrailing
      split at h
      · rename_i hleading
        obtain ⟨m, hm, h⟩ := bind_eq_ok.mp h
        obtain ⟨rfl, rfl⟩ := Prod.mk.inj (Except.ok.inj h)
        rw [← hdigits.length, List.drop_left] at hm
        obtain ⟨digits', rest', rfl, hdigits', htrailing'⟩ := trailingSurrogate_eq_ok_iff.mp hm
        exact ⟨'u' :: (digits ++ '\\' :: 'u' :: digits'), rest', by simp,
          by simp [hdigits.length, hdigits'.length], .pair hdigits hdigits' hleading htrailing'⟩
      · rename_i hleading
        rw [Bool.not_eq_true] at hleading
        obtain ⟨rfl, rfl⟩ := Prod.mk.inj (Except.ok.inj h)
        exact ⟨'u' :: digits, rest, rfl, by simp [hdigits.length],
          .unit hdigits htrailing hleading⟩
    · split at h
      · rename_i hmeaning
        obtain ⟨rfl, rfl⟩ := Prod.mk.inj (Except.ok.inj h)
        exact ⟨[_], _, rfl, rfl, .simple hmeaning⟩
      · cases h
  · rintro ⟨escape, rest, rfl, rfl, h⟩
    cases h with
    | simple hmeaning =>
      rw [List.singleton_append, pairedEscape.eq_3 _ _ fun h => ne_unit_of_simpleEscape? hmeaning h,
        hmeaning]
      rfl
    | unit hdigits htrailing hleading =>
      rw [List.cons_append, pairedEscape_unit (hdigits.hex4 rest), htrailing, hleading]
      simp [hdigits.length]
    | @pair digits digits' n m hdigits hdigits' hleading htrailing =>
      have hother : trailingSurrogate ((digits ++ ('\\' :: 'u' :: (digits' ++ rest))).drop 4) =
          .ok m := by
        rw [← hdigits.length, List.drop_left]
        exact trailingSurrogate_eq_ok_iff.mpr ⟨digits', rest, rfl, hdigits', htrailing⟩
      have htext : 'u' :: (digits ++ '\\' :: 'u' :: digits') ++ rest =
          'u' :: (digits ++ ('\\' :: 'u' :: (digits' ++ rest))) := by simp
      rw [htext, pairedEscape_unit (hdigits.hex4 _),
        isTrailingSurrogate_of_isLeadingSurrogate hleading, hleading]
      simp only [hother, Bool.false_eq_true, if_false, if_true]
      simp [Except.map, hdigits.length, hdigits'.length]

theorem looseEscape_takes : EscapeRule.Takes looseEscape SkippedEscape := by
  intro cs meaning length
  constructor
  · intro h
    unfold looseEscape at h
    split at h
    · cases h
    · obtain ⟨n, hn, hresult⟩ := bind_eq_ok.mp h
      obtain ⟨digits, rest, rfl, hdigits⟩ := hex4_eq_ok_iff.mp hn
      obtain ⟨rfl, rfl⟩ := Prod.mk.inj (Except.ok.inj hresult)
      exact ⟨'u' :: digits, rest, rfl, by simp [hdigits.length], .unit hdigits⟩
    · split at h
      · rename_i hmeaning
        obtain ⟨rfl, rfl⟩ := Prod.mk.inj (Except.ok.inj h)
        exact ⟨[_], _, rfl, rfl, .simple hmeaning⟩
      · cases h
  · rintro ⟨escape, rest, rfl, rfl, h⟩
    cases h with
    | simple hmeaning =>
      rw [List.singleton_append, looseEscape.eq_3 _ _ fun h => ne_unit_of_simpleEscape? hmeaning h,
        hmeaning]
      rfl
    | unit hdigits =>
      rw [List.cons_append, looseEscape, hdigits.hex4, List.length_cons, hdigits.length]
      rfl

/-- A string that is skipped is any string of the grammar. -/
theorem exists_spellsText_skipped_iff :
    (∃ text, SpellsText SkippedEscape cs text) ↔ ∃ pieces, SpellsPieces cs pieces := by
  constructor
  · rintro ⟨text, h⟩
    induction h with
    | nil => exact ⟨[], .nil⟩
    | raw hquote hescape hcontrol h ih =>
      obtain ⟨pieces, hpieces⟩ := ih
      exact ⟨_, .cons (.raw hquote hescape hcontrol) hpieces⟩
    | escape hescape h ih =>
      obtain ⟨pieces, hpieces⟩ := ih
      cases hescape with
      | simple hmeaning => exact ⟨_, .cons (.escape hmeaning) hpieces⟩
      | unit hdigits => exact ⟨_, .cons hdigits.piece hpieces⟩
  · rintro ⟨pieces, h⟩
    induction h with
    | nil => exact ⟨[], .nil⟩
    | cons hpiece h ih =>
      obtain ⟨text, htext⟩ := ih
      cases hpiece with
      | raw hquote hescape hcontrol => exact ⟨_, .raw hquote hescape hcontrol htext⟩
      | escape hmeaning => exact ⟨_, .escape (.simple hmeaning) htext⟩
      | unit ha hb hc hd => exact ⟨_, .escape (.unit (.mk ha hb hc hd)) htext⟩

theorem decode_plain (c : Char) (pieces : List Piece) :
    Piece.decode (.plain c :: pieces) = (Piece.decode pieces).map (c :: ·) := by
  rw [Piece.decode, Option.map_eq_map]

theorem decode_pair {n m : Nat} (hleading : isLeadingSurrogate n) (htrailing : isTrailingSurrogate m)
    (pieces : List Piece) :
    Piece.decode (.unit n :: .unit m :: pieces) =
      (Piece.decode pieces).map (pairedChar n m :: ·) := by
  rw [Piece.decode.eq_def (.unit n :: .unit m :: pieces)]
  simp [isTrailingSurrogate_of_isLeadingSurrogate hleading, hleading, htrailing]

/-- The first half of a character does not stand alone. -/
theorem decode_leading {n : Nat} (hleading : isLeadingSurrogate n) {pieces : List Piece}
    (halone : ∀ m others, pieces = .unit m :: others → isTrailingSurrogate m = false) :
    Piece.decode (.unit n :: pieces) = none := by
  rw [Piece.decode.eq_def (.unit n :: pieces)]
  simp only [isTrailingSurrogate_of_isLeadingSurrogate hleading, hleading, Bool.false_eq_true,
    if_false, if_true]
  split
  · rename_i m others
    rw [if_neg (by simp [halone m others rfl])]
  · rfl

theorem decode_trailing {n : Nat} (htrailing : isTrailingSurrogate n) (pieces : List Piece) :
    Piece.decode (.unit n :: pieces) = none := by
  rw [Piece.decode.eq_def (.unit n :: pieces)]
  simp [htrailing]

/-- A code unit is written with its four digits. -/
theorem SpellsPieces.of_unit {n : Nat} {pieces : List Piece}
    (h : SpellsPieces cs (.unit n :: pieces)) :
    ∃ digits others, cs = '\\' :: 'u' :: (digits ++ others) ∧ SpellsUnit digits n ∧
      SpellsPieces others pieces := by
  cases h with
  | cons hpiece h =>
    cases hpiece with
    | unit ha hb hc hd => exact ⟨_, _, rfl, .mk ha hb hc hd, h⟩

/-- A string that is kept is a string of the grammar that decodes. -/
theorem spellsText_kept_iff :
    SpellsText KeptEscape cs text ↔
      ∃ pieces, SpellsPieces cs pieces ∧ Piece.decode pieces = some text := by
  constructor
  · intro h
    induction h with
    | nil => exact ⟨[], .nil, rfl⟩
    | raw hquote hescape hcontrol h ih =>
      obtain ⟨pieces, hpieces, hdecode⟩ := ih
      exact ⟨_, .cons (.raw hquote hescape hcontrol) hpieces, by rw [decode_plain, hdecode]; rfl⟩
    | escape hescape h ih =>
      obtain ⟨pieces, hpieces, hdecode⟩ := ih
      cases hescape with
      | simple hmeaning =>
        exact ⟨_, .cons (.escape hmeaning) hpieces, by rw [decode_plain, hdecode]; rfl⟩
      | unit hdigits htrailing hleading =>
        refine ⟨_, .cons hdigits.piece hpieces, ?_⟩
        rw [decode_unit htrailing hleading, hdecode]
        rfl
      | pair hdigits hdigits' hleading htrailing =>
        refine ⟨_, ?_, (decode_pair hleading htrailing pieces).trans (by rw [hdecode]; rfl)⟩
        have hspelled := SpellsPieces.cons hdigits.piece (.cons hdigits'.piece hpieces)
        simpa using hspelled
  · rintro ⟨pieces, h, hdecode⟩
    -- along the decoding, which takes both halves of a character at once
    induction pieces using Piece.decode.induct generalizing cs text with
    | case1 =>
      cases h
      obtain rfl := Option.some.inj hdecode
      exact .nil
    | case2 c pieces ih =>
      rw [decode_plain, Option.map_eq_some_iff] at hdecode
      obtain ⟨text, hdecode, rfl⟩ := hdecode
      cases h with
      | cons hpiece h =>
        cases hpiece with
        | raw hquote hescape hcontrol => exact .raw hquote hescape hcontrol (ih h hdecode)
        | escape hmeaning => exact .escape (.simple hmeaning) (ih h hdecode)
    | case3 n pieces htrailing =>
      rw [decode_trailing htrailing] at hdecode
      cases hdecode
    | case4 n _ hleading m pieces htrailing ih =>
      rw [decode_pair hleading htrailing, Option.map_eq_some_iff] at hdecode
      obtain ⟨text, hdecode, rfl⟩ := hdecode
      obtain ⟨digits, others, rfl, hdigits, h⟩ := h.of_unit
      obtain ⟨digits', rest, rfl, hdigits', h⟩ := h.of_unit
      have hspelled := SpellsText.escape (.pair hdigits hdigits' hleading htrailing)
        (ih h hdecode)
      simpa using hspelled
    | case5 n _ hleading m pieces htrailing =>
      have halone : ∀ m' others, .unit m :: pieces = .unit m' :: others →
          isTrailingSurrogate m' = false := by
        rintro m' others ⟨⟩
        exact Bool.not_eq_true _ ▸ htrailing
      rw [decode_leading hleading halone] at hdecode
      cases hdecode
    | case6 n pieces _ hleading hother =>
      rw [decode_leading hleading fun m others h => (hother m others h).elim] at hdecode
      cases hdecode
    | case7 n pieces htrailing hleading ih =>
      rw [Bool.not_eq_true] at htrailing hleading
      rw [decode_unit htrailing hleading, Option.map_eq_map, Option.map_eq_some_iff] at hdecode
      obtain ⟨text, hdecode, rfl⟩ := hdecode
      obtain ⟨digits, rest, rfl, hdigits, h⟩ := h.of_unit
      exact .escape (.unit hdigits htrailing hleading) (ih h hdecode)

/-- The text that is kept of a string is what its pieces decode to. -/
theorem scanString_eq_ok_iff :
    scanString cs = .ok (text, rest) ↔ ∃ chars pieces, cs = chars ++ '"' :: rest ∧
      SpellsPieces chars pieces ∧ Piece.decode pieces = some text := by
  rw [scanString, stringAfter_eq_ok_iff pairedEscape_takes]
  simp only [spellsText_kept_iff]
  exact ⟨fun ⟨chars, hcs, pieces, h⟩ => ⟨chars, pieces, hcs, h⟩,
    fun ⟨chars, pieces, hcs, h⟩ => ⟨chars, hcs, pieces, h⟩⟩

theorem skipString_eq_ok_iff :
    skipString cs = .ok rest ↔ ∃ chars pieces, cs = chars ++ '"' :: rest ∧
      SpellsPieces chars pieces := by
  constructor
  · intro h
    unfold skipString at h
    cases hstring : stringAfter looseEscape 0 cs with
    | error fault =>
      rw [hstring] at h
      cases h
    | ok found =>
      obtain ⟨text, rest'⟩ := found
      rw [hstring] at h
      obtain rfl : rest' = rest := Except.ok.inj h
      obtain ⟨chars, hcs, htext⟩ := (stringAfter_eq_ok_iff looseEscape_takes).mp hstring
      obtain ⟨pieces, hpieces⟩ := exists_spellsText_skipped_iff.mp ⟨text, htext⟩
      exact ⟨chars, pieces, hcs, hpieces⟩
  · rintro ⟨chars, pieces, rfl, hpieces⟩
    obtain ⟨text, htext⟩ := exists_spellsText_skipped_iff.mpr ⟨pieces, hpieces⟩
    rw [skipString, htext.stringAfter looseEscape_takes]
    rfl

end

/-! ## Numbers -/

section

variable {atEnd : ScanFault} {cs rest : List Char}

theorem digits1_eq_ok_iff {digits : List Char} :
    digits1 atEnd cs = .ok (digits, rest) ↔
      cs = digits ++ rest ∧ Digits digits ∧ Leaves isDigit rest := by
  constructor
  · intro h
    unfold digits1 at h
    split at h
    · cases h
    rename_i c cs
    split at h
    · rename_i hc
      obtain ⟨rfl, rfl⟩ := Prod.mk.inj (Except.ok.inj h)
      refine ⟨List.takeWhile_append_dropWhile.symm, ⟨?_, ?_⟩, ?_⟩
      · rw [List.takeWhile_cons_of_pos hc]
        exact List.cons_ne_nil _ _
      · exact fun d hd => List.all_eq_true.mp List.all_takeWhile d hd
      · intro d hd
        have hhead := List.head?_dropWhile_not isDigit (c :: cs)
        rw [show List.head? ((c :: cs).dropWhile isDigit) = some d from hd] at hhead
        simpa using hhead
    · cases h
  · rintro ⟨rfl, hdigits, hrest⟩
    obtain ⟨c, more, rfl, hc⟩ := hdigits.head
    have htake := takeWhile_append_of_leaves hdigits.2 hrest
    have hdrop : (c :: more ++ rest).dropWhile isDigit = rest := by
      have hall := List.takeWhile_append_dropWhile (p := isDigit) (l := c :: more ++ rest)
      rw [htake] at hall
      exact List.append_cancel_left hall
    rw [List.cons_append] at htake hdrop ⊢
    rw [digits1, if_pos hc, htake, hdrop]

theorem wholeDigits_eq_ok_iff {digits : List Char} :
    wholeDigits atEnd cs = .ok (digits, rest) ↔
      cs = digits ++ rest ∧ WholeDigits digits ∧ Leaves isDigit rest := by
  simp only [wholeDigits, bind_eq_ok, digits1_eq_ok_iff, Prod.exists]
  constructor
  · rintro ⟨ds, others, ⟨rfl, hdigits, hrest⟩, h⟩
    split at h
    · cases h
    · rename_i hzero
      obtain ⟨rfl, rfl⟩ := Prod.mk.inj (Except.ok.inj h)
      refine ⟨rfl, ⟨hdigits, fun hhead => ?_⟩, hrest⟩
      -- a zero with something behind it has been refused
      match ds, hdigits with
      | [c], _ =>
        obtain rfl := Option.some.inj hhead
        rfl
      | c :: d :: more, _ =>
        obtain rfl := Option.some.inj hhead
        exact absurd rfl (hzero d more)
  · rintro ⟨rfl, ⟨hdigits, hzero⟩, hrest⟩
    refine ⟨digits, rest, ⟨rfl, hdigits, hrest⟩, ?_⟩
    split
    · rename_i d more
      exact absurd (hzero rfl) (by simp)
    · rfl

/-- A text that goes on with neither of the two signs of an exponent. -/
theorem exponentSign_of_digits {digits : List Char} (h : Digits digits) (rest : List Char) :
    exponentSign (digits ++ rest) = (false, digits ++ rest) := by
  obtain ⟨c, more, rfl, hc⟩ := h.head
  rw [List.cons_append, exponentSign]
  · rintro _ ⟨⟩
    cases hc
  · rintro _ ⟨⟩
    cases hc

theorem SpellsSign.exponentSign {sign digits : List Char} {negative : Bool}
    (h : SpellsSign sign negative) (hdigits : Digits digits) :
    exponentSign (sign ++ (digits ++ rest)) = (negative, digits ++ rest) := by
  cases h with
  | absent => exact exponentSign_of_digits hdigits rest
  | plus => rfl
  | minus => rfl

theorem exists_spellsSign (cs : List Char) :
    ∃ sign, cs = sign ++ (exponentSign cs).2 ∧ SpellsSign sign (exponentSign cs).1 := by
  unfold exponentSign
  split
  · exact ⟨['+'], rfl, .plus⟩
  · exact ⟨['-'], rfl, .minus⟩
  · exact ⟨[], rfl, .absent⟩

theorem SpellsFraction.of_fractionDigits {f : Option (List Char)}
    (h : fractionDigits atEnd cs = .ok (f, rest)) :
    ∃ chars, cs = chars ++ rest ∧ SpellsFraction chars f := by
  unfold fractionDigits at h
  split at h
  · obtain ⟨⟨digits, others⟩, hdigits, h⟩ := bind_eq_ok.mp h
    obtain ⟨rfl, rfl⟩ := Prod.mk.inj (Except.ok.inj h)
    obtain ⟨rfl, hdigits, -⟩ := digits1_eq_ok_iff.mp hdigits
    exact ⟨'.' :: digits, rfl, .present hdigits⟩
  · obtain ⟨rfl, rfl⟩ := Prod.mk.inj (Except.ok.inj h)
    exact ⟨[], rfl, .absent⟩

theorem SpellsFraction.fractionDigits {chars : List Char} {f : Option (List Char)}
    (h : SpellsFraction chars f) (hrest : Leaves (fun c => isDigit c || c = '.') rest) :
    fractionDigits atEnd (chars ++ rest) = .ok (f, rest) := by
  cases h with
  | absent =>
    cases rest with
    | nil => rfl
    | cons c cs =>
      have hc := hrest c rfl
      rw [List.nil_append, Json.fractionDigits]
      rintro _ ⟨⟩
      simp at hc
  | present hdigits =>
    have hleaves : Leaves isDigit rest := hrest.mono fun c hc => by simp [hc]
    rw [List.cons_append, Json.fractionDigits, digits1_eq_ok_iff.mpr ⟨rfl, hdigits, hleaves⟩]
    rfl

theorem SpellsExponent.of_exponentDigits {e : Option (Bool × List Char)}
    (h : exponentDigits atEnd cs = .ok (e, rest)) :
    ∃ chars, cs = chars ++ rest ∧ SpellsExponent chars e := by
  unfold exponentDigits at h
  split at h
  · rename_i c cs
    split at h
    · rename_i hc
      obtain ⟨⟨digits, others⟩, hdigits, h⟩ := bind_eq_ok.mp h
      obtain ⟨rfl, rfl⟩ := Prod.mk.inj (Except.ok.inj h)
      obtain ⟨sign, hsplit, hsign⟩ := exists_spellsSign cs
      obtain ⟨hothers, hdigits, -⟩ := digits1_eq_ok_iff.mp hdigits
      rw [hothers] at hsplit
      exact ⟨c :: (sign ++ digits), by simp [hsplit], .present hc hsign hdigits⟩
    · obtain ⟨rfl, rfl⟩ := Prod.mk.inj (Except.ok.inj h)
      exact ⟨[], rfl, .absent⟩
  · obtain ⟨rfl, rfl⟩ := Prod.mk.inj (Except.ok.inj h)
    exact ⟨[], rfl, .absent⟩

theorem SpellsExponent.exponentDigits {chars : List Char} {e : Option (Bool × List Char)}
    (h : SpellsExponent chars e) (hrest : Stops rest) :
    exponentDigits atEnd (chars ++ rest) = .ok (e, rest) := by
  cases h with
  | absent =>
    cases rest with
    | nil => rfl
    | cons c cs =>
      have hc : ¬ (c = 'e' ∨ c = 'E') := by
        have hstops := hrest c rfl
        rintro (rfl | rfl) <;> cases hstops
      rw [List.nil_append, Json.exponentDigits, if_neg hc]
  | present he hsign hdigits =>
    rw [List.cons_append, List.append_assoc, Json.exponentDigits, if_pos he,
      hsign.exponentSign hdigits, digits1_eq_ok_iff.mpr ⟨rfl, hdigits, hrest.leaves_digit⟩]
    rfl

theorem unsignedNumeral_eq_ok_iff {negative : Bool} {n : Numeral} :
    unsignedNumeral atEnd negative cs = .ok (n, rest) ↔ ∃ whole f e r r',
      wholeDigits atEnd cs = .ok (whole, r) ∧ fractionDigits atEnd r = .ok (f, r') ∧
        exponentDigits atEnd r' = .ok (e, rest) ∧ n = ⟨negative, whole, f, e⟩ := by
  simp only [unsignedNumeral, bind_eq_ok, Prod.exists]
  constructor
  · rintro ⟨whole, r, hwhole, f, r', hfraction, e, r'', hexponent, h⟩
    obtain ⟨rfl, rfl⟩ := Prod.mk.inj (Except.ok.inj h)
    exact ⟨whole, f, e, r, r', hwhole, hfraction, hexponent, rfl⟩
  · rintro ⟨whole, f, e, r, r', hwhole, hfraction, hexponent, rfl⟩
    exact ⟨whole, r, hwhole, f, r', hfraction, e, rest, hexponent, rfl⟩

/-- What was taken as a number is spelled as one. -/
theorem SpellsNumeral.of_numeral {n : Numeral} (h : numeral atEnd cs = .ok (n, rest)) :
    ∃ chars, cs = chars ++ rest ∧ SpellsNumeral chars n := by
  have hparts : ∀ {negative cs}, unsignedNumeral atEnd negative cs = .ok (n, rest) →
      ∃ whole fraction exponent f e, cs = whole ++ (fraction ++ exponent) ++ rest ∧
        WholeDigits whole ∧ SpellsFraction fraction f ∧ SpellsExponent exponent e ∧
        n = ⟨negative, whole, f, e⟩ := by
    intro negative cs h
    obtain ⟨whole, f, e, r, r', hfirst, hsecond, hthird, hn⟩ := unsignedNumeral_eq_ok_iff.mp h
    obtain ⟨rfl, hwhole, -⟩ := wholeDigits_eq_ok_iff.mp hfirst
    obtain ⟨fraction, rfl, hfraction⟩ := SpellsFraction.of_fractionDigits hsecond
    obtain ⟨exponent, rfl, hexponent⟩ := SpellsExponent.of_exponentDigits hthird
    exact ⟨whole, fraction, exponent, f, e, by simp, hwhole, hfraction, hexponent, hn⟩
  unfold numeral at h
  split at h
  · obtain ⟨whole, fraction, exponent, f, e, rfl, hwhole, hfraction, hexponent, rfl⟩ := hparts h
    exact ⟨_, rfl, .negative hwhole hfraction hexponent⟩
  · obtain ⟨whole, fraction, exponent, f, e, rfl, hwhole, hfraction, hexponent, rfl⟩ := hparts h
    exact ⟨_, rfl, .positive hwhole hfraction hexponent⟩

/-- What is spelled as a number is taken as one, unless the number could go on. -/
theorem SpellsNumeral.numeral {chars : List Char} {n : Numeral} (h : SpellsNumeral chars n)
    (hrest : Stops rest) : numeral atEnd (chars ++ rest) = .ok (n, rest) := by
  have hparts : ∀ {negative whole fraction exponent f e}, WholeDigits whole →
      SpellsFraction fraction f → SpellsExponent exponent e →
        unsignedNumeral atEnd negative (whole ++ (fraction ++ exponent) ++ rest) =
          .ok (⟨negative, whole, f, e⟩, rest) := by
    intro negative whole fraction exponent f e hwhole hfraction hexponent
    have hletter := hexponent.leaves hrest
    rw [List.append_assoc, List.append_assoc]
    exact unsignedNumeral_eq_ok_iff.mpr ⟨whole, f, e, _, _,
      wholeDigits_eq_ok_iff.mpr ⟨rfl, hwhole, hfraction.leaves hletter⟩,
      hfraction.fractionDigits hletter, hexponent.exponentDigits hrest, rfl⟩
  cases h with
  | positive hwhole hfraction hexponent =>
    rw [Json.numeral]
    · exact hparts hwhole hfraction hexponent
    · intro others heq
      rw [List.append_assoc] at heq
      exact hwhole.1.ne_minus heq
  | negative hwhole hfraction hexponent =>
    rw [List.cons_append, Json.numeral]
    exact hparts hwhole hfraction hexponent

end

end Json
end FailOpen
