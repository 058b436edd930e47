import FailOpen.Proofs.Startup.Described

/-!
# Options are read from exactly the documents that describe them

The readers go through a text once, from left to right, and skip what they do not need.  Each has
two lemmas: what it takes is spelled by the text (`_sound`), and it takes whatever is spelled, up to
what follows (`_complete`).  What has been found after each member or element is only passed along
here; what it means is left to `foldlM_takeMember?_iff` and `foldlM_putPair?_iff`.

`ofJson_eq_ok_iff` puts them together.  Faults are left out: a text that describes nothing is
refused, but not which fault is reported.
-/

namespace FailOpen
namespace Startup

open Json (Tree Piece Blank Stops Closes Spells SpellsName SpellsItems SpellsMembers Continued)

section

variable {α : Type} {cs rest value : List Char}

/-! ## Values behind a colon -/

/-- A reader of what comes after a colon. -/
def afterColon (reader : List Char → Except DocumentFault (α × List Char)) (cs : List Char) :
    Except DocumentFault (α × List Char) := do
  let cs ← scanned (Json.literal [':'] (Json.skipBlanks cs))
  reader cs

variable {reader : List Char → Except DocumentFault (α × List Char)} {meaning : Tree → Option α}
  {a : α} {tree : Tree}

theorem Reads.sound_afterColon (h : Reads reader meaning)
    (hread : afterColon reader cs = .ok (a, rest)) :
    ∃ after space value tree, cs = after ++ ':' :: (space ++ (value ++ rest)) ∧ Blank after ∧
      Blank space ∧ Spells value tree ∧ meaning tree = some a := by
  obtain ⟨behind, hcolon, hbehind⟩ := Json.bind_eq_ok.mp hread
  obtain ⟨after, hafter, hcs⟩ := Json.exists_blank_of_skipBlanks
    (Json.literal_eq_ok_iff.mp (scanned_eq_ok_iff.mp hcolon))
  obtain ⟨space, value, tree, rfl, hspace, hvalue, hmeaning⟩ := h.sound hbehind
  exact ⟨after, space, value, tree, hcs, hafter, hspace, hvalue, hmeaning⟩

theorem Reads.complete_afterColon (h : Reads reader meaning) {after space : List Char}
    (hafter : Blank after) (hspace : Blank space) (hvalue : Spells value tree) (hrest : Stops rest)
    (hmeaning : meaning tree = some a) :
    afterColon reader (after ++ ':' :: (space ++ (value ++ rest))) = .ok (a, rest) := by
  rw [afterColon, hafter.skip_append rfl]
  exact h.complete hspace hvalue hrest hmeaning

/-- Values that are not needed are read as values that do not matter. -/
theorem reads_skipped (found : α) :
    Reads (fun cs => do
      let cs ← scanned (Json.skipValue cs)
      return (found, cs)) fun _ => some found where
  sound h := by
    obtain ⟨r, hskip, h⟩ := Json.bind_eq_ok.mp h
    obtain ⟨rfl, rfl⟩ := Prod.mk.inj (Except.ok.inj h)
    obtain ⟨blank, value, tree, hcs, hblank, hvalue⟩ :=
      Json.spells_of_skipValue (scanned_eq_ok_iff.mp hskip)
    exact ⟨blank, value, tree, hcs, hblank, hvalue, rfl⟩
  complete hblank hvalue hrest hmeaning := by
    obtain rfl := Option.some.inj hmeaning
    rw [hvalue.skipValue hblank hrest]
    rfl

end

/-! ## Members -/

section

variable {found found' : Partial} {cs rest blank value tail more : List Char}
  {members : List (List Piece × Tree)} {options : Options}

/-- A member is taken with the blanks before it, if it can be added to what has been found. -/
theorem readMember_sound (hblank : Blank blank) (hread : readMember found cs = .ok (found', rest)) :
    ∃ name value pieces tree, blank ++ '"' :: cs = name ++ (value ++ rest) ∧
      SpellsName name pieces ∧ Spells value tree ∧
        found.takeMember? (pieces, tree) = some found' := by
  obtain ⟨⟨text, behind⟩, hstring, h⟩ := Json.bind_eq_ok.mp hread
  obtain ⟨chars, pieces, hcs, hpieces, hdecode⟩ :=
    Json.scanString_eq_ok_iff.mp (scanned_eq_ok_iff.mp hstring)
  have hname : Piece.text? pieces = some (String.ofList text) := by
    rw [Piece.text?, hdecode]
    rfl
  dsimp only at h
  cases hsetting : Setting.ofName? (String.ofList text) with
  | none =>
    rw [hsetting] at h
    obtain ⟨after, space, value, tree, hbehind, hafter, hspace, hvalue, hmeaning⟩ :=
      (reads_skipped found).sound_afterColon h
    refine ⟨_, value, pieces, tree, ?_, .mk hblank hpieces hafter hspace, hvalue, ?_⟩
    · simp [hcs, hbehind]
    · simpa [Partial.takeMember?, hname, hsetting] using hmeaning
  | some setting =>
    rw [hsetting] at h
    cases hhas : found.has setting with
    | true =>
      simp only [hhas, if_true] at h
      cases h
    | false =>
      simp only [hhas, Bool.false_eq_true, if_false] at h
      obtain ⟨after, space, value, tree, hbehind, hafter, hspace, hvalue, hmeaning⟩ :=
        (reads_setting found setting).sound_afterColon h
      refine ⟨_, value, pieces, tree, ?_, .mk hblank hpieces hafter hspace, hvalue, ?_⟩
      · simp [hcs, hbehind]
      · simpa [Partial.takeMember?, hname, hsetting, hhas] using hmeaning

theorem readMember_complete {name : List Char} {pieces : List Piece} {tree : Tree}
    (hname : SpellsName name pieces) (hvalue : Spells value tree) (hrest : Stops rest)
    (htake : found.takeMember? (pieces, tree) = some found') :
    ∃ blank cs, name ++ (value ++ rest) = blank ++ '"' :: cs ∧ Blank blank ∧
      readMember found cs = .ok (found', rest) := by
  obtain @⟨before, chars, after, space, pieces, hbefore, hpieces, hafter, hspace⟩ := hname
  refine ⟨before, chars ++ '"' :: (after ++ ':' :: (space ++ (value ++ rest))), by simp, hbefore,
    ?_⟩
  obtain ⟨name, hname, htake⟩ := Option.bind_eq_some_iff.mp htake
  obtain ⟨text, hdecode, rfl⟩ := Option.map_eq_some_iff.mp hname
  have hstring : Json.scanString (chars ++ '"' :: (after ++ ':' :: (space ++ (value ++ rest)))) =
      .ok (text, after ++ ':' :: (space ++ (value ++ rest))) :=
    Json.scanString_eq_ok_iff.mpr ⟨chars, pieces, rfl, hpieces, hdecode⟩
  rw [readMember, scanned_eq_ok_iff.mpr hstring, Json.ok_bind]
  dsimp only
  cases hsetting : Setting.ofName? (String.ofList text) with
  | none =>
    rw [hsetting] at htake
    exact (reads_skipped found).complete_afterColon hafter hspace hvalue hrest htake
  | some setting =>
    simp only [hsetting] at htake
    cases hhas : found.has setting with
    | true =>
      simp only [hhas, if_true] at htake
      cases htake
    | false =>
      simp only [hhas, Bool.false_eq_true, if_false] at htake ⊢
      exact (reads_setting found setting).complete_afterColon hafter hspace hvalue hrest htake

/-- A member that is taken and those that follow it are the members of an object. -/
theorem exists_spellsMembers {next : Partial} {behind : List Char} (hblank : Blank blank)
    (hmember : readMember found cs = .ok (next, behind)) (hbehind : behind = tail ++ more)
    (htail : Continued SpellsMembers tail members)
    (hfold : members.foldlM Partial.takeMember? next = some found') :
    ∃ chars all, blank ++ '"' :: cs = chars ++ more ∧ SpellsMembers chars all ∧
      all.foldlM Partial.takeMember? found = some found' := by
  obtain ⟨name, value, pieces, tree, hname, hspelled, hvalue, htake⟩ :=
    readMember_sound hblank hmember
  refine ⟨name ++ (value ++ tail), (pieces, tree) :: members, ?_,
    .of_continued hspelled hvalue htail, ?_⟩
  · simp [hname, hbehind]
  · rw [List.foldlM_cons, htake]
    exact hfold

/-- The first of some members is taken, and what follows it is shorter. -/
theorem exists_readMember {chars : List Char} (h : SpellsMembers chars members)
    (hfold : members.foldlM Partial.takeMember? found = some found') (hmore : Stops more) :
    ∃ before cs next tail others, chars ++ more = before ++ '"' :: cs ∧ Blank before ∧
      readMember found cs = .ok (next, tail ++ more) ∧ Continued SpellsMembers tail others ∧
        others.foldlM Partial.takeMember? next = some found' ∧ tail.length ≤ chars.length := by
  obtain ⟨name, value, tail, pieces, tree, others, rfl, rfl, hname, hvalue, htail⟩ :=
    h.exists_continued
  rw [List.foldlM_cons, Option.bind_eq_bind, Option.bind_eq_some_iff] at hfold
  obtain ⟨next, htake, hfold⟩ := hfold
  obtain ⟨before, cs, hquote, hbefore, hmember⟩ :=
    readMember_complete hname hvalue (htail.stops hmore) htake
  refine ⟨before, cs, next, tail, others, ?_, hbefore, hmember, htail, hfold, ?_⟩
  · rw [← hquote]
    simp
  · simp only [List.length_append]
    omega

/-- The members that follow another one are taken up to the closing brace, which is left. -/
theorem readMembers_sound (steps : Nat) (h : readMembers found steps cs = .ok (found', rest)) :
    ∃ tail members more, cs = tail ++ '\x7d' :: more ∧ rest = '\x7d' :: more ∧
      Continued SpellsMembers tail members ∧
        members.foldlM Partial.takeMember? found = some found' := by
  induction steps generalizing found cs with
  | zero => cases h
  | succ steps ih =>
    unfold readMembers at h
    split at h
    · rename_i more hbrace
      obtain ⟨rfl, rfl⟩ := Prod.mk.inj (Except.ok.inj h)
      obtain ⟨blank, hblank, rfl⟩ := Json.exists_blank_of_skipBlanks hbrace
      exact ⟨blank, [], more, rfl, rfl, .done hblank, rfl⟩
    · rename_i cs' hcomma
      obtain ⟨blank, hblank, rfl⟩ := Json.exists_blank_of_skipBlanks hcomma
      split at h
      · rename_i cs'' hquote
        obtain ⟨before, hbefore, rfl⟩ := Json.exists_blank_of_skipBlanks hquote
        obtain ⟨⟨next, behind⟩, hmember, h⟩ := Json.bind_eq_ok.mp h
        obtain ⟨tail, members, more, hbehind, rfl, htail, hfold⟩ := ih h
        obtain ⟨chars, all, hchars, hall, hfold⟩ :=
          exists_spellsMembers hbefore hmember hbehind htail hfold
        refine ⟨blank ++ ',' :: chars, all, more, ?_, rfl, .more hblank hall, hfold⟩
        simp [hchars]
      · cases h
    · cases h

/-- All members that follow are taken: every one is shorter than what is left, so the steps do not
run out. -/
theorem readMembers_complete {steps : Nat} (h : Continued SpellsMembers tail members)
    (hsteps : tail.length < steps)
    (hfold : members.foldlM Partial.takeMember? found = some found') :
    readMembers found steps (tail ++ '\x7d' :: more) = .ok (found', '\x7d' :: more) := by
  induction steps generalizing found tail members with
  | zero => cases hsteps
  | succ steps ih =>
    cases h with
    | done hblank =>
      obtain rfl := Option.some.inj hfold
      rw [readMembers, hblank.skip_append rfl]
      rfl
    | @more blank chars members hblank hmembers =>
      have hmore : Stops ('\x7d' :: more) := Closes.brace.stops
      obtain ⟨before, cs, next, tail, others, hchars, hbefore, hmember, htail, hfold, hlength⟩ :=
        exists_readMember hmembers hfold hmore
      have hshorter : tail.length < steps := by
        simp only [List.length_append, List.length_cons] at hsteps
        omega
      have hskip : Json.skipBlanks (before ++ '"' :: cs) = '"' :: cs := hbefore.skip_append rfl
      rw [List.append_assoc, List.cons_append, hchars, readMembers, hblank.skip_append rfl]
      simp only [hskip, hmember]
      exact ih htail hshorter hfold

/-! ## Objects -/

theorem readFirstMember_sound (h : readFirstMember cs = .ok (found, rest)) :
    ∃ chars members more, '\x7b' :: cs = chars ++ more ∧ rest = '\x7d' :: more ∧
      Spells chars (.object members) ∧ members.foldlM Partial.takeMember? {} = some found := by
  unfold readFirstMember at h
  split at h
  · rename_i more hbrace
    obtain ⟨rfl, rfl⟩ := Prod.mk.inj (Except.ok.inj h)
    obtain ⟨blank, hblank, rfl⟩ := Json.exists_blank_of_skipBlanks hbrace
    exact ⟨'\x7b' :: (blank ++ ['\x7d']), [], more, by simp, rfl, .emptyObject hblank, rfl⟩
  · rename_i cs' hquote
    obtain ⟨before, hbefore, rfl⟩ := Json.exists_blank_of_skipBlanks hquote
    obtain ⟨⟨next, behind⟩, hmember, h⟩ := Json.bind_eq_ok.mp h
    obtain ⟨tail, members, more, hbehind, rfl, htail, hfold⟩ := readMembers_sound _ h
    obtain ⟨chars, all, hchars, hall, hfold⟩ :=
      exists_spellsMembers hbefore hmember hbehind htail hfold
    exact ⟨_, all, more, by simp [hchars], rfl, .object hall, hfold⟩
  · cases h

theorem readFirstMember_complete {chars : List Char} (h : Spells chars (.object members))
    (hfold : members.foldlM Partial.takeMember? {} = some found) :
    ∃ cs, chars ++ more = '\x7b' :: cs ∧ readFirstMember cs = .ok (found, '\x7d' :: more) := by
  cases h with
  | @emptyObject blank hblank =>
    obtain rfl := Option.some.inj hfold
    refine ⟨blank ++ '\x7d' :: more, by simp, ?_⟩
    rw [readFirstMember, hblank.skip_append rfl]
    rfl
  | @object chars _ hmembers =>
    have hmore : Stops ('\x7d' :: more) := Closes.brace.stops
    obtain ⟨before, cs, next, tail, others, hchars, hbefore, hmember, htail, hfold, -⟩ :=
      exists_readMember hmembers hfold hmore
    refine ⟨before ++ '"' :: cs, by rw [← hchars]; simp, ?_⟩
    rw [readFirstMember, hbefore.skip_append rfl]
    simp only [hmember]
    refine readMembers_complete htail ?_ hfold
    simp only [List.length_append]
    omega

/-- What ends a container once its options are made. -/
theorem closed_eq_ok_iff {missing : Setting → DataFault} {closing : Char} :
    (do
      let options ← found.options.mapError fun setting => DocumentFault.data (missing setting)
      let cs ← scanned (Json.literal [closing] (Json.skipBlanks cs))
      return (options, cs)) = .ok (options, rest) ↔
      found.options = .ok options ∧ Json.skipBlanks cs = closing :: rest := by
  simp only [Json.bind_eq_ok, mapError_eq_ok_iff, scanned_eq_ok_iff, Json.literal_eq_ok_iff]
  constructor
  · rintro ⟨made, hmade, behind, hclosing, h⟩
    obtain ⟨rfl, rfl⟩ := Prod.mk.inj (Except.ok.inj h)
    exact ⟨hmade, hclosing⟩
  · rintro ⟨hmade, hclosing⟩
    exact ⟨options, hmade, rest, hclosing, rfl⟩

/-- The object at the front of a text is taken if it describes options. -/
theorem readObject_sound (hread : readObject cs = .ok (options, rest)) :
    ∃ chars members, '\x7b' :: cs = chars ++ rest ∧ Spells chars (.object members) ∧
      Describes (.object members) options := by
  obtain ⟨⟨found, behind⟩, hmembers, h⟩ := Json.bind_eq_ok.mp hread
  obtain ⟨hoptions, hclosing⟩ := closed_eq_ok_iff.mp h
  obtain ⟨chars, members, more, hchars, rfl, hspells, hfold⟩ := readFirstMember_sound hmembers
  obtain rfl : more = rest := by
    rw [Json.skipBlanks_of_leaves Closes.brace.leaves_blank] at hclosing
    exact (List.cons.inj hclosing).2
  obtain ⟨hnames, honce, hholds⟩ := foldlM_takeMember?_iff.mp hfold
  exact ⟨chars, members, hchars, hspells,
    .object hnames honce (hholds.options_eq_ok_iff.mp hoptions)⟩

theorem readObject_complete {chars : List Char} (h : Spells chars (.object members))
    (hdescribes : Describes (.object members) options) (rest : List Char) :
    ∃ cs, chars ++ rest = '\x7b' :: cs ∧ readObject cs = .ok (options, rest) := by
  cases hdescribes with
  | object hnames honce hmakes =>
    obtain ⟨found, hholds⟩ := hmakes.exists_holds
    obtain ⟨cs, hcs, hmembers⟩ :=
      readFirstMember_complete h (foldlM_takeMember?_iff.mpr ⟨hnames, honce, hholds⟩)
    refine ⟨cs, hcs, ?_⟩
    rw [readObject, hmembers]
    exact closed_eq_ok_iff.mpr ⟨hholds.options_eq_ok_iff.mpr hmakes,
      Json.skipBlanks_of_leaves Closes.brace.leaves_blank⟩

/-! ## Elements -/

section

variable {settings : List Setting} {items : List Tree} {isFirst : Bool}

/-- What an array holds up to its end, from its beginning or from behind an element. -/
def Elements : (isFirst : Bool) → List Char → List Tree → Prop
  | true, cs, items => Blank cs ∧ items = [] ∨ SpellsItems cs items
  | false, cs, items => Continued SpellsItems cs items

theorem elements_nil (h : Blank tail) : Elements isFirst tail [] := by
  cases isFirst with
  | true => exact .inl ⟨h, rfl⟩
  | false => exact .done h

theorem not_spellsItems_nil : ¬ SpellsItems cs [] := by
  intro h
  cases h

theorem Elements.blank_of_nil (h : Elements isFirst tail []) : Blank tail := by
  cases isFirst with
  | true =>
    rcases h with ⟨h, -⟩ | h
    · exact h
    · exact absurd h not_spellsItems_nil
  | false =>
    cases h with
    | done h => exact h
    | more hblank h => exact absurd h not_spellsItems_nil

theorem Elements.spells (h : Elements true tail items) :
    Spells ('[' :: (tail ++ [']'])) (.array items) := by
  rcases h with ⟨h, rfl⟩ | h
  · exact .emptyArray h
  · exact .array h

theorem elements_of_spells {chars : List Char} (h : Spells chars (.array items)) :
    ∃ tail, chars = '[' :: (tail ++ [']']) ∧ Elements true tail items := by
  cases h with
  | emptyArray hblank => exact ⟨_, rfl, .inl ⟨hblank, rfl⟩⟩
  | array hitems => exact ⟨_, rfl, .inr hitems⟩

theorem nextElement_of_bracket (h : Json.skipBlanks cs = ']' :: more) :
    nextElement isFirst cs = .ok none := by
  rw [nextElement, h]
  rfl

theorem nextElement_first {c : Char} (h : Json.skipBlanks cs = c :: rest) (hc : c ≠ ']') :
    nextElement true cs = .ok (some (c :: rest)) := by
  unfold nextElement
  rw [h]
  split
  · contradiction
  · rename_i heq
    exact absurd (List.cons.inj heq).1 hc
  · rename_i heq
    rw [if_pos rfl, heq]

theorem nextElement_comma {c : Char} {behind : List Char}
    (hcomma : Json.skipBlanks cs = ',' :: behind) (h : Json.skipBlanks behind = c :: rest)
    (hc : c ≠ ']') :
    nextElement false cs = .ok (some (c :: rest)) := by
  unfold nextElement
  rw [hcomma]
  split
  · contradiction
  · rename_i heq
    exact absurd (List.cons.inj heq).1 (by decide)
  · rename_i heq
    obtain ⟨rfl, rfl⟩ := List.cons.inj heq
    rw [if_neg Bool.false_ne_true, if_pos rfl, h]
    split
    · contradiction
    · rename_i heq
      exact absurd (List.cons.inj heq).1 hc
    · rfl

/-- Moving to the next element leaves the blanks before it, and the comma, behind. -/
theorem elements_of_nextElement {item : Tree} (h : nextElement isFirst cs = .ok (some rest))
    (hrest : rest = blank ++ (value ++ (tail ++ more))) (hblank : Blank blank)
    (hvalue : Spells value item) (htail : Continued SpellsItems tail items) :
    ∃ chars, cs = chars ++ more ∧ Elements isFirst chars (item :: items) := by
  have hitems : ∀ before, Blank before →
      SpellsItems (before ++ (blank ++ (value ++ tail))) (item :: items) := by
    intro before hbefore
    rw [← List.append_assoc]
    exact .of_continued (hbefore.append hblank) hvalue htail
  unfold nextElement at h
  split at h
  · cases h
  · cases h
  · rename_i c cs' hbracket hfirst
    obtain ⟨before, hbefore, rfl⟩ := Json.exists_blank_of_skipBlanks hfirst
    split at h
    · rename_i hisFirst
      obtain rfl := hisFirst
      have hseen : c :: cs' = rest := Option.some.inj (Except.ok.inj h)
      exact ⟨_, by rw [hseen, hrest]; simp, .inr (hitems before hbefore)⟩
    · rename_i hisFirst
      obtain rfl := Bool.eq_false_iff.mpr hisFirst
      split at h
      · rename_i hcomma
        subst hcomma
        obtain ⟨behind, hbehind, hcs', -⟩ := Json.exists_blank cs'
        split at h
        · cases h
        · cases h
        · have hseen : Json.skipBlanks cs' = rest := Option.some.inj (Except.ok.inj h)
          refine ⟨before ++ ',' :: (behind ++ (blank ++ (value ++ tail))), ?_,
            .more hbefore (hitems behind hbehind)⟩
          rw [hcs', hseen, hrest]
          simp
      · cases h

/-- The next element is found behind the blanks and the comma before it. -/
theorem Elements.nextElement {item : Tree} (h : Elements isFirst cs (item :: items))
    (rest : List Char) :
    ∃ value tail, nextElement isFirst (cs ++ rest) = .ok (some (value ++ (tail ++ rest))) ∧
      Spells value item ∧ Continued SpellsItems tail items := by
  cases isFirst with
  | true =>
    rcases h with ⟨-, hitems⟩ | h
    · cases hitems
    · obtain ⟨c, chars, tail, _, _, hitems, hfirst, hc, hvalue, htail⟩ := h.skipBlanks rest
      obtain ⟨rfl, rfl⟩ := List.cons.inj hitems
      exact ⟨c :: chars, tail, nextElement_first hfirst hc, hvalue, htail⟩
  | false =>
    cases h with
    | @more before cs _ hbefore h =>
      obtain ⟨c, chars, tail, _, _, hitems, hfirst, hc, hvalue, htail⟩ := h.skipBlanks rest
      obtain ⟨rfl, rfl⟩ := List.cons.inj hitems
      refine ⟨c :: chars, tail, ?_, hvalue, htail⟩
      rw [List.append_assoc, List.cons_append]
      exact nextElement_comma (hbefore.skip_append rfl) hfirst hc

/-- Elements are taken as the values of the settings, up to the closing bracket. -/
theorem readElements_sound (h : readElements found isFirst settings cs = .ok (found', rest))
    (hend : Json.skipBlanks rest = ']' :: more) :
    ∃ tail items, cs = tail ++ ']' :: more ∧ Elements isFirst tail items ∧
      items.length ≤ settings.length ∧
        (settings.zip items).foldlM Partial.putPair? found = some found' := by
  induction settings generalizing found isFirst cs with
  | nil =>
    obtain ⟨rfl, rfl⟩ := Prod.mk.inj (Except.ok.inj h)
    obtain ⟨blank, hblank, rfl⟩ := Json.exists_blank_of_skipBlanks hend
    exact ⟨blank, [], rfl, elements_nil hblank, Nat.le_refl 0, rfl⟩
  | cons setting settings ih =>
    obtain ⟨next, hnext, h⟩ := Json.bind_eq_ok.mp h
    cases next with
    | none =>
      obtain ⟨rfl, rfl⟩ := Prod.mk.inj (Except.ok.inj h)
      obtain ⟨blank, hblank, rfl⟩ := Json.exists_blank_of_skipBlanks hend
      exact ⟨blank, [], rfl, elements_nil hblank, Nat.zero_le _, rfl⟩
    | some cs' =>
      obtain ⟨⟨found'', behind⟩, hsetting, h⟩ := Json.bind_eq_ok.mp h
      obtain ⟨blank, value, item, hcs', hblank, hvalue, hput⟩ :=
        (reads_setting found setting).sound hsetting
      obtain ⟨tail, items, rfl, htail, hlength, hfold⟩ := ih h
      obtain ⟨chars, hchars, helements⟩ := elements_of_nextElement hnext hcs' hblank hvalue htail
      refine ⟨chars, item :: items, hchars, helements, Nat.succ_le_succ hlength, ?_⟩
      rw [List.zip_cons_cons, List.foldlM_cons, Partial.putPair?, hput]
      exact hfold

theorem readElements_complete (h : Elements isFirst tail items)
    (hlength : items.length ≤ settings.length)
    (hfold : (settings.zip items).foldlM Partial.putPair? found = some found') :
    ∃ rest, readElements found isFirst settings (tail ++ ']' :: more) = .ok (found', rest) ∧
      Json.skipBlanks rest = ']' :: more := by
  induction items generalizing found isFirst settings tail with
  | nil =>
    have hfirst : Json.skipBlanks (tail ++ ']' :: more) = ']' :: more :=
      h.blank_of_nil.skip_append rfl
    rw [List.zip_nil_right] at hfold
    obtain rfl := Option.some.inj hfold
    refine ⟨tail ++ ']' :: more, ?_, hfirst⟩
    cases settings with
    | nil => rfl
    | cons setting settings =>
      rw [readElements, nextElement_of_bracket hfirst]
      rfl
  | cons item items ih =>
    cases settings with
    | nil => cases hlength
    | cons setting settings =>
      obtain ⟨value, tail', hnext, hvalue, htail⟩ := h.nextElement (']' :: more)
      rw [List.zip_cons_cons, List.foldlM_cons, Option.bind_eq_bind,
        Option.bind_eq_some_iff] at hfold
      obtain ⟨next, hput, hfold⟩ := hfold
      have hstops : Stops (tail' ++ ']' :: more) := htail.stops Closes.bracket.stops
      have hread : found.readSetting setting (value ++ (tail' ++ ']' :: more)) =
          .ok (next, tail' ++ ']' :: more) :=
        (reads_setting found setting).complete Json.blank_nil hvalue hstops hput
      have hothers : Elements false tail' items := htail
      obtain ⟨rest, helements, hrest⟩ := ih hothers (Nat.le_of_succ_le_succ hlength) hfold
      refine ⟨rest, ?_, hrest⟩
      rw [readElements, hnext]
      simp only [Json.ok_bind, hread]
      exact helements

/-! ## Arrays -/

/-- The array at the front of a text is taken if it describes options. -/
theorem readArray_sound (hread : readArray cs = .ok (options, rest)) :
    ∃ chars items, '[' :: cs = chars ++ rest ∧ Spells chars (.array items) ∧
      Describes (.array items) options := by
  obtain ⟨⟨found, behind⟩, helements, h⟩ := Json.bind_eq_ok.mp hread
  obtain ⟨hoptions, hclosing⟩ := closed_eq_ok_iff.mp h
  obtain ⟨tail, items, hcs, htail, hmost, hfold⟩ := readElements_sound helements hclosing
  have hholds := (foldlM_putPair?_iff (nodup_all_zip items)).mp hfold
  rw [givenIn_all_zip hmost] at hholds
  have hmakes := hholds.options_eq_ok_iff.mp hoptions
  exact ⟨_, items, by rw [hcs]; simp, htail.spells, .array hmakes.length hmost hmakes⟩

theorem readArray_complete {chars : List Char} (h : Spells chars (.array items))
    (hdescribes : Describes (.array items) options) (rest : List Char) :
    ∃ cs, chars ++ rest = '[' :: cs ∧ readArray cs = .ok (options, rest) := by
  obtain ⟨tail, rfl, htail⟩ := elements_of_spells h
  cases hdescribes with
  | array hleast hmost hmakes =>
    obtain ⟨found, hholds⟩ := hmakes.exists_holds
    have hfold := hholds
    rw [← givenIn_all_zip hmost, ← foldlM_putPair?_iff (nodup_all_zip items)] at hfold
    have hlength : items.length ≤ Setting.all.length := hmost
    obtain ⟨behind, helements, hclosing⟩ := readElements_complete htail hlength hfold
    refine ⟨tail ++ ']' :: rest, by simp, ?_⟩
    rw [readArray, helements]
    exact closed_eq_ok_iff.mpr ⟨hholds.options_eq_ok_iff.mpr hmakes, hclosing⟩

end

/-! ## Documents -/

theorem readOptions_sound (h : readOptions cs = .ok (options, rest)) :
    ∃ blank chars tree, cs = blank ++ (chars ++ rest) ∧ Blank blank ∧ Spells chars tree ∧
      Describes tree options := by
  unfold readOptions at h
  split at h
  · rename_i hbracket
    obtain ⟨blank, hblank, rfl⟩ := Json.exists_blank_of_skipBlanks hbracket
    obtain ⟨chars, items, hchars, hspells, hdescribes⟩ := readArray_sound h
    exact ⟨blank, chars, _, by rw [hchars], hblank, hspells, hdescribes⟩
  · rename_i hbrace
    obtain ⟨blank, hblank, rfl⟩ := Json.exists_blank_of_skipBlanks hbrace
    obtain ⟨chars, members, hchars, hspells, hdescribes⟩ := readObject_sound h
    exact ⟨blank, chars, _, by rw [hchars], hblank, hspells, hdescribes⟩
  · exact absurd h wrongType_ne_ok

theorem readOptions_complete {chars : List Char} {tree : Tree} (hblank : Blank blank)
    (h : Spells chars tree) (hdescribes : Describes tree options) :
    readOptions (blank ++ (chars ++ rest)) = .ok (options, rest) := by
  cases tree with
  | object members =>
    obtain ⟨cs, hcs, hread⟩ := readObject_complete h hdescribes rest
    rw [hcs, readOptions, hblank.skip_append rfl]
    exact hread
  | array items =>
    obtain ⟨cs, hcs, hread⟩ := readArray_complete h hdescribes rest
    rw [hcs, readOptions, hblank.skip_append rfl]
    exact hread
  | _ => cases hdescribes

/-- Options are read from a text exactly if it is a document that describes them, in whatever order
and between whatever other members. -/
theorem ofJson_eq_ok_iff (text : String) (options : Options) :
    Options.ofJson text = .ok options ↔
      ∃ tree, Json.Document text tree ∧ Describes tree options := by
  rw [Options.ofJson]
  constructor
  · intro h
    obtain ⟨⟨found, rest⟩, hread, h⟩ := Json.bind_eq_ok.mp h
    obtain ⟨blank, chars, tree, htext, hblank, hspells, hdescribes⟩ := readOptions_sound hread
    obtain ⟨after, hafter, hrest, -⟩ := Json.exists_blank rest
    dsimp only at h
    split at h
    · rename_i hend
      obtain rfl := Except.ok.inj h
      rw [hend, List.append_nil] at hrest
      exact ⟨tree, ⟨blank, chars, after, by rw [htext, hrest], hblank, hspells, hafter⟩, hdescribes⟩
    · cases h
  · rintro ⟨tree, ⟨blank, chars, after, htext, hblank, hspells, hafter⟩, hdescribes⟩
    have hend : Json.skipBlanks after = [] := by
      have hnothing : Json.Leaves Json.isBlank [] := by simp [Json.Leaves]
      simpa using Json.skipBlanks_append hafter hnothing
    rw [htext, readOptions_complete hblank hspells hdescribes]
    simp only [Json.ok_bind, hend]
    rfl

/-- A name may be written with escapes, and what is skipped need not make sense. -/
example : (Options.ofJson
    "\x7b\"x\":[1e999,\"\\ud800\"],\"api_ke\\u0079\":\"k\",\"url\":\"u\"\x7d").toOption =
      some (Options.bare "u" "k") := by
  decide +kernel

end

end Startup
end FailOpen
