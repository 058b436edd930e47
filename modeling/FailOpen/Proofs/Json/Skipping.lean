import FailOpen.Proofs.Json.Scanning

/-!
# Skipping takes one value

Values whose content is not needed are skipped by a machine with a stack of open containers, which
knows nothing of what it skips but where it ends.  It takes exactly one value of the grammar, of any
kind and of any depth, and any value of the grammar is taken.

* `Completes` says what a stack demands of a text: the rest of each container, from the innermost
  one outwards.
* `skipOpen_completes` is the one direction, by induction on the steps.
* `Spells.skips` is the other one, by induction on the value: each value is passed in a number of
  steps that its text bounds, whatever the stack around it is.
* `Spells.skipValue` and `spells_of_skipValue` put them together.
-/

namespace FailOpen
namespace Json

/-! ## What follows an item -/

/-- What follows an item of a container, up to its end: blanks, or a comma and more items. -/
inductive Continued {α : Type} (Items : List Char → List α → Prop) : List Char → List α → Prop
  | done {blank : List Char} (hblank : Blank blank) : Continued Items blank []
  | more {blank cs : List Char} {items : List α} (hblank : Blank blank) (h : Items cs items) :
      Continued Items (blank ++ ',' :: cs) items

section

variable {cs rest tail blank : List Char}

theorem SpellsItems.of_continued {item : Tree} {items : List Tree} (hblank : Blank blank)
    (h : Spells cs item) (htail : Continued SpellsItems tail items) :
    SpellsItems (blank ++ (cs ++ tail)) (item :: items) := by
  cases htail with
  | done hafter => exact .last hblank h hafter
  | more hafter hothers => exact .more hblank h hafter hothers

theorem SpellsItems.exists_continued {items : List Tree} (h : SpellsItems cs items) :
    ∃ blank value tail item others, cs = blank ++ (value ++ tail) ∧ items = item :: others ∧
      Blank blank ∧ Spells value item ∧ Continued SpellsItems tail others := by
  cases h with
  | last hbefore h hafter => exact ⟨_, _, _, _, _, rfl, rfl, hbefore, h, .done hafter⟩
  | more hbefore h hafter hothers =>
    exact ⟨_, _, _, _, _, rfl, rfl, hbefore, h, .more hafter hothers⟩

theorem SpellsMembers.of_continued {pieces : List Piece} {value : Tree}
    {members : List (List Piece × Tree)} {name : List Char} (hname : SpellsName name pieces)
    (h : Spells cs value) (htail : Continued SpellsMembers tail members) :
    SpellsMembers (name ++ (cs ++ tail)) ((pieces, value) :: members) := by
  cases htail with
  | done hafter => exact .last hname h hafter
  | more hafter hothers => exact .more hname h hafter hothers

theorem SpellsMembers.exists_continued {members : List (List Piece × Tree)}
    (h : SpellsMembers cs members) :
    ∃ name value tail pieces tree others, cs = name ++ (value ++ tail) ∧
      members = (pieces, tree) :: others ∧ SpellsName name pieces ∧ Spells value tree ∧
      Continued SpellsMembers tail others := by
  cases h with
  | last hname h hafter => exact ⟨_, _, _, _, _, _, rfl, rfl, hname, h, .done hafter⟩
  | more hname h hafter hothers =>
    exact ⟨_, _, _, _, _, _, rfl, rfl, hname, h, .more hafter hothers⟩

/-- What follows an item lets no number go on. -/
theorem Continued.stops {α : Type} {Items : List Char → List α → Prop} {items : List α}
    (h : Continued Items tail items) (hrest : Stops rest) : Stops (tail ++ rest) := by
  cases h with
  | done hblank => exact hblank.stops hrest
  | more hblank h =>
    rw [List.append_assoc]
    exact hblank.stops Closes.comma.stops

/-! ## Blanks -/

theorem skipBlanks_of_leaves (h : Leaves isBlank cs) : skipBlanks cs = cs :=
  skipBlanks_append blank_nil h

theorem skipBlanks_skipBlanks (cs : List Char) : skipBlanks (skipBlanks cs) = skipBlanks cs := by
  obtain ⟨-, -, -, hleaves⟩ := exists_blank cs
  exact skipBlanks_of_leaves hleaves

/-- A text begins with blanks and then with the character that is seen behind them. -/
theorem exists_blank_of_skipBlanks {c : Char} (h : skipBlanks cs = c :: rest) :
    ∃ blank, Blank blank ∧ cs = blank ++ c :: rest := by
  obtain ⟨blank, hblank, hcs, -⟩ := exists_blank cs
  exact ⟨blank, hblank, h ▸ hcs⟩

theorem Blank.append (h : Blank blank) (hrest : Blank rest) : Blank (blank ++ rest) := by
  intro c hc
  rcases List.mem_append.mp hc with hc | hc
  · exact h c hc
  · exact hrest c hc

theorem Blank.skip_append {c : Char} (hblank : Blank blank) (hc : isBlank c = false) :
    skipBlanks (blank ++ c :: rest) = c :: rest :=
  skipBlanks_append hblank (leaves_cons hc)

/-! ## Scalars and names -/

/-- What was skipped as a scalar is a value. -/
theorem spells_of_skipScalar (h : skipScalar cs = .ok rest) :
    ∃ chars tree, cs = chars ++ rest ∧ Spells chars tree := by
  unfold skipScalar at h
  split at h
  · cases h
  · obtain rfl := literal_eq_ok_iff.mp h
    exact ⟨_, _, rfl, .null⟩
  · obtain rfl := literal_eq_ok_iff.mp h
    exact ⟨_, _, rfl, .yes⟩
  · obtain rfl := literal_eq_ok_iff.mp h
    exact ⟨_, _, rfl, .no⟩
  · obtain ⟨chars, pieces, rfl, hpieces⟩ := skipString_eq_ok_iff.mp h
    exact ⟨'"' :: (chars ++ ['"']), _, by simp, .text hpieces⟩
  · rename_i c cs _ _ _ _
    split at h
    · cases hnumeral : numeral .malformed (c :: cs) with
      | error fault =>
        rw [hnumeral] at h
        cases h
      | ok found =>
        obtain ⟨n, rest'⟩ := found
        rw [hnumeral] at h
        obtain rfl : rest' = rest := Except.ok.inj h
        obtain ⟨chars, hchars, hspelled⟩ := SpellsNumeral.of_numeral hnumeral
        exact ⟨chars, _, hchars, .number hspelled⟩
    · cases h

theorem beginsNumber_of_kindOf? {c : Char} (h : kindOf? c = some .number) : beginsNumber c := by
  unfold kindOf? at h
  split at h
  case h_7 =>
    split at h
    · assumption
    · cases h
  all_goals cases h

theorem skipScalar_of_beginsNumber {c : Char} (h : beginsNumber c) :
    skipScalar (c :: cs) = (numeral .malformed (c :: cs)).map Prod.snd := by
  unfold skipScalar
  split
  case h_6 heq =>
    obtain ⟨rfl, rfl⟩ := List.cons.inj heq
    rw [if_pos h]
  all_goals
    rename_i heq
    cases heq
    try cases h

/-- Whether a value is a container. -/
def Tree.isContainer : Tree → Bool
  | .array _ | .object _ => true
  | _ => false

theorem Spells.skipScalar {tree : Tree} (h : Spells cs tree) (hscalar : tree.isContainer = false)
    (hrest : Stops rest) : skipScalar (cs ++ rest) = .ok rest := by
  cases h with
  | null => rfl
  | yes => rfl
  | no => rfl
  | number hn =>
    obtain ⟨c, more, hcs, hkind⟩ := (Spells.number hn).head
    subst hcs
    rw [List.cons_append, skipScalar_of_beginsNumber (beginsNumber_of_kindOf? hkind),
      ← List.cons_append, hn.numeral hrest]
    rfl
  | text hpieces =>
    have htext : skipString (_ ++ '"' :: rest) = .ok rest :=
      skipString_eq_ok_iff.mpr ⟨_, _, rfl, hpieces⟩
    simpa [Json.skipScalar] using htext
  | emptyArray hblank => cases hscalar
  | array hitems => cases hscalar
  | emptyObject hblank => cases hscalar
  | object hmembers => cases hscalar

theorem spellsName_of_skipName (h : skipName cs = .ok rest) :
    ∃ name pieces, cs = name ++ rest ∧
      ∀ space, Blank space → SpellsName (name ++ space) pieces := by
  unfold skipName at h
  split at h
  · rename_i cs' hquote
    obtain ⟨r, hstring, hcolon⟩ := bind_eq_ok.mp h
    obtain ⟨before, hbefore, rfl⟩ := exists_blank_of_skipBlanks hquote
    obtain ⟨chars, pieces, rfl, hpieces⟩ := skipString_eq_ok_iff.mp hstring
    obtain ⟨after, hafter, rfl⟩ := exists_blank_of_skipBlanks (literal_eq_ok_iff.mp hcolon)
    refine ⟨before ++ '"' :: (chars ++ '"' :: (after ++ [':'])), pieces, by simp,
      fun space hspace => ?_⟩
    have hname := SpellsName.mk hbefore hpieces hafter hspace
    simpa using hname
  · cases h

/-- A name is skipped up to its colon. -/
theorem SpellsName.skipName {name : List Char} {pieces : List Piece} (h : SpellsName name pieces) :
    ∃ space, Blank space ∧ ∀ rest, skipName (name ++ rest) = .ok (space ++ rest) := by
  obtain @⟨before, cs, after, space, pieces, hbefore, hpieces, hafter, hspace⟩ := h
  refine ⟨space, hspace, fun rest => ?_⟩
  have htext : before ++ '"' :: (cs ++ '"' :: (after ++ ':' :: space)) ++ rest =
      before ++ '"' :: (cs ++ '"' :: (after ++ ':' :: (space ++ rest))) := by simp
  have hstring : skipString (cs ++ '"' :: (after ++ ':' :: (space ++ rest))) =
      .ok (after ++ ':' :: (space ++ rest)) := skipString_eq_ok_iff.mpr ⟨cs, pieces, rfl, hpieces⟩
  rw [htext, Json.skipName, hbefore.skip_append rfl]
  simp only [hstring]
  change literal [':'] (skipBlanks (after ++ ':' :: (space ++ rest))) = _
  rw [hafter.skip_append rfl]
  rfl

theorem skipName_skipBlanks (cs : List Char) : skipName (skipBlanks cs) = skipName cs := by
  rw [skipName, skipName, skipBlanks_skipBlanks]

/-! ## What is left of the containers -/

/-- What a stack of open containers demands of a text behind an item: each container takes what
follows up to its end, and what is left goes to the next one. -/
def Completes : List Frame → List Char → List Char → Prop
  | [], cs, rest => cs = rest
  | .array :: stack, cs, rest => ∃ tail items others, cs = tail ++ ']' :: others ∧
      Continued SpellsItems tail items ∧ Completes stack others rest
  | .object :: stack, cs, rest => ∃ tail members others, cs = tail ++ '\x7d' :: others ∧
      Continued SpellsMembers tail members ∧ Completes stack others rest

/-- A value stands in the text, behind blanks, and what follows is what the stack demands. -/
def CompletesValue (stack : List Frame) (cs rest : List Char) : Prop :=
  ∃ blank value tree others, cs = blank ++ (value ++ others) ∧ Blank blank ∧ Spells value tree ∧
    Completes stack others rest

/-- A value that has an item and what follows it inside. -/
theorem CompletesValue.of_items {stack : List Frame} (hblank : Blank blank)
    (h : CompletesValue (.array :: stack) cs rest) :
    CompletesValue stack (blank ++ '[' :: cs) rest := by
  obtain ⟨before, value, tree, after, rfl, hbefore, hvalue, tail, items, others, rfl, htail,
    hothers⟩ := h
  refine ⟨blank, '[' :: ((before ++ (value ++ tail)) ++ [']']), _, others, by simp, hblank,
    .array (.of_continued hbefore hvalue htail), hothers⟩

theorem CompletesValue.of_members {stack : List Frame} {name : List Char} {pieces : List Piece}
    (hblank : Blank blank)
    (hname : ∀ space, Blank space → SpellsName (name ++ space) pieces)
    (h : CompletesValue (.object :: stack) cs rest) :
    CompletesValue stack (blank ++ '\x7b' :: (name ++ cs)) rest := by
  obtain ⟨space, value, tree, after, rfl, hspace, hvalue, tail, members, others, rfl, htail,
    hothers⟩ := h
  refine ⟨blank, '\x7b' :: (((name ++ space) ++ (value ++ tail)) ++ ['\x7d']), _, others, by simp,
    hblank, .object (.of_continued (hname space hspace) hvalue htail), hothers⟩

/-- Blanks before a value are skipped with it. -/
theorem skipOpen_skipBlanks (steps : Nat) (stack : List Frame) (cs : List Char) :
    skipOpen steps .value stack (skipBlanks cs) = skipOpen steps .value stack cs := by
  cases steps with
  | zero => rfl
  | succ steps =>
    unfold skipOpen
    rw [skipBlanks_skipBlanks]

theorem skipOpen_blank_append {steps : Nat} {stack : List Frame} (hblank : Blank blank)
    (hcs : Leaves isBlank cs) :
    skipOpen steps .value stack (blank ++ cs) = skipOpen steps .value stack cs := by
  rw [← skipOpen_skipBlanks, skipBlanks_append hblank hcs]

/-- What the machine takes is what its stack demands. -/
theorem skipOpen_completes (steps : Nat) :
    (∀ stack cs, skipOpen steps .more stack cs = .ok rest → Completes stack cs rest) ∧
      ∀ stack cs, skipOpen steps .value stack cs = .ok rest → CompletesValue stack cs rest := by
  induction steps with
  | zero => exact ⟨fun _ _ h => (by cases h), fun _ _ h => (by cases h)⟩
  | succ steps ih =>
    obtain ⟨hmore, hvalue⟩ := ih
    refine ⟨fun stack cs h => ?_, fun stack cs h => ?_⟩
    · cases stack with
      | nil => exact Except.ok.inj h
      | cons frame stack =>
        unfold skipOpen at h
        split at h
        · rename_i cs' heq
          -- a comma in an array, and then an item
          obtain ⟨blank, hblank, rfl⟩ := exists_blank_of_skipBlanks heq
          obtain ⟨before, value, tree, after, rfl, hbefore, hspelled, tail, items, others, rfl,
            htail, hothers⟩ := hvalue _ _ h
          exact ⟨_, _, others, by simp, .more hblank (.of_continued hbefore hspelled htail), hothers⟩
        · rename_i cs' heq
          -- a comma in an object, and then a name and a value
          obtain ⟨r, hskip, hrun⟩ := bind_eq_ok.mp h
          obtain ⟨name, pieces, rfl, hname⟩ := spellsName_of_skipName hskip
          obtain ⟨blank, hblank, rfl⟩ := exists_blank_of_skipBlanks heq
          obtain ⟨space, value, tree, after, rfl, hspace, hspelled, tail, members, others, rfl,
            htail, hothers⟩ := hvalue _ _ hrun
          exact ⟨_, _, others, by simp,
            .more hblank (.of_continued (hname space hspace) hspelled htail), hothers⟩
        · rename_i cs' heq
          obtain ⟨blank, hblank, rfl⟩ := exists_blank_of_skipBlanks heq
          exact ⟨blank, [], cs', rfl, .done hblank, hmore _ _ h⟩
        · rename_i cs' heq
          obtain ⟨blank, hblank, rfl⟩ := exists_blank_of_skipBlanks heq
          exact ⟨blank, [], cs', rfl, .done hblank, hmore _ _ h⟩
        · cases h
    · unfold skipOpen at h
      split at h
      · rename_i cs' heq
        obtain ⟨blank, hblank, rfl⟩ := exists_blank_of_skipBlanks heq
        split at h
        · cases h
        · rename_i cs'' hclosed
          obtain ⟨inside, hinside, rfl⟩ := exists_blank_of_skipBlanks hclosed
          exact ⟨blank, '[' :: (inside ++ [']']), _, cs'', by simp, hblank, .emptyArray hinside,
            hmore _ _ h⟩
        · rw [skipOpen_skipBlanks] at h
          exact .of_items hblank (hvalue _ _ h)
      · rename_i cs' heq
        obtain ⟨blank, hblank, rfl⟩ := exists_blank_of_skipBlanks heq
        split at h
        · cases h
        · rename_i cs'' hclosed
          obtain ⟨inside, hinside, rfl⟩ := exists_blank_of_skipBlanks hclosed
          exact ⟨blank, '\x7b' :: (inside ++ ['\x7d']), _, cs'', by simp, hblank,
            .emptyObject hinside, hmore _ _ h⟩
        · rw [skipName_skipBlanks] at h
          obtain ⟨r, hskip, hrun⟩ := bind_eq_ok.mp h
          obtain ⟨name, pieces, rfl, hname⟩ := spellsName_of_skipName hskip
          exact .of_members hblank hname (hvalue _ _ hrun)
      · obtain ⟨r, hskip, hrun⟩ := bind_eq_ok.mp h
        obtain ⟨value, tree, heq, hspelled⟩ := spells_of_skipScalar hskip
        obtain ⟨blank, hblank, hcs, -⟩ := exists_blank cs
        exact ⟨blank, value, tree, r, heq ▸ hcs, hblank, hspelled, hmore _ _ hrun⟩

/-! ## Single steps -/

section

variable {n : Nat} {stack : List Frame}

/-- So are blanks before the comma or the end. -/
theorem skipOpen_more_skipBlanks (frame : Frame) (cs : List Char) :
    skipOpen n .more (frame :: stack) (skipBlanks cs) = skipOpen n .more (frame :: stack) cs := by
  cases n with
  | zero => rfl
  | succ n =>
    unfold skipOpen
    rw [skipBlanks_skipBlanks]

theorem skipOpen_comma_array (hblank : Blank blank) (cs : List Char) :
    skipOpen (n + 1) .more (.array :: stack) (blank ++ ',' :: cs) =
      skipOpen n .value (.array :: stack) cs := by
  rw [← skipOpen_more_skipBlanks, hblank.skip_append rfl]
  rfl

theorem skipOpen_comma_object (hblank : Blank blank) (cs : List Char) :
    skipOpen (n + 1) .more (.object :: stack) (blank ++ ',' :: cs) =
      skipName cs >>= skipOpen n .value (.object :: stack) := by
  rw [← skipOpen_more_skipBlanks, hblank.skip_append rfl]
  rfl

theorem skipOpen_bracket (hblank : Blank blank) (cs : List Char) :
    skipOpen (n + 1) .more (.array :: stack) (blank ++ ']' :: cs) = skipOpen n .more stack cs := by
  rw [← skipOpen_more_skipBlanks, hblank.skip_append rfl]
  rfl

theorem skipOpen_brace (hblank : Blank blank) (cs : List Char) :
    skipOpen (n + 1) .more (.object :: stack) (blank ++ '\x7d' :: cs) =
      skipOpen n .more stack cs := by
  rw [← skipOpen_more_skipBlanks, hblank.skip_append rfl]
  rfl

theorem skipOpen_openBracket (cs : List Char) :
    skipOpen (n + 1) .value stack ('[' :: cs) =
      match skipBlanks cs with
      | [] => .error .endOfText
      | ']' :: cs => skipOpen n .more stack cs
      | cs => skipOpen n .value (.array :: stack) cs := rfl

theorem skipOpen_openBrace (cs : List Char) :
    skipOpen (n + 1) .value stack ('\x7b' :: cs) =
      match skipBlanks cs with
      | [] => .error .endOfText
      | '\x7d' :: cs => skipOpen n .more stack cs
      | cs => skipName cs >>= skipOpen n .value (.object :: stack) := rfl

/-- An array that is not empty begins with an item. -/
theorem skipOpen_array {c : Char} (h : skipBlanks cs = c :: rest) (hc : c ≠ ']') :
    skipOpen (n + 1) .value stack ('[' :: cs) = skipOpen n .value (.array :: stack) cs := by
  rw [skipOpen_openBracket, ← skipOpen_skipBlanks, h]
  split
  · rename_i heq
    cases heq
  · rename_i heq
    exact absurd (List.cons.inj heq).1 hc
  · rfl

/-- An object that is not empty begins with a name. -/
theorem skipOpen_object {c : Char} (h : skipBlanks cs = c :: rest) (hc : c ≠ '\x7d') :
    skipOpen (n + 1) .value stack ('\x7b' :: cs) =
      skipName cs >>= skipOpen n .value (.object :: stack) := by
  rw [skipOpen_openBrace, ← skipName_skipBlanks, h]
  split
  · rename_i heq
    cases heq
  · rename_i heq
    exact absurd (List.cons.inj heq).1 hc
  · rfl

theorem skipOpen_scalar {tree : Tree} (h : Spells cs tree) (hscalar : tree.isContainer = false)
    (hrest : Stops rest) :
    skipOpen (n + 1) .value stack (cs ++ rest) = skipOpen n .more stack rest := by
  have hskip := h.skipScalar hscalar hrest
  conv =>
    lhs
    unfold skipOpen
  rw [skipBlanks_of_leaves h.leaves_blank]
  split
  · rename_i heq
    rw [heq] at hskip
    cases hskip
  · rename_i heq
    rw [heq] at hskip
    cases hskip
  · rw [hskip]
    rfl

end

end

/-! ## Values are skipped -/

/-- Behind the blanks, the text of an array's items begins with the first item. -/
theorem SpellsItems.skipBlanks {cs : List Char} {items : List Tree} (h : SpellsItems cs items)
    (rest : List Char) : ∃ c chars tail item others, items = item :: others ∧
      skipBlanks (cs ++ rest) = c :: (chars ++ (tail ++ rest)) ∧ c ≠ ']' ∧
        Spells (c :: chars) item ∧ Continued SpellsItems tail others := by
  obtain ⟨blank, value, tail, item, others, rfl, hitems, hblank, hvalue, htail⟩ :=
    h.exists_continued
  obtain ⟨c, chars, rfl, hkind⟩ := hvalue.head
  refine ⟨c, chars, tail, item, others, hitems, ?_, ?_, hvalue, htail⟩
  · have htext : blank ++ (c :: chars ++ tail) ++ rest =
        blank ++ c :: (chars ++ (tail ++ rest)) := by simp
    rw [htext, hblank.skip_append (not_isBlank_of_kindOf? hkind)]
  · rintro rfl
    cases hkind

theorem SpellsMembers.skipBlanks {cs : List Char} {members : List (List Piece × Tree)}
    (h : SpellsMembers cs members) (rest : List Char) :
    ∃ more, skipBlanks (cs ++ rest) = '"' :: more := by
  obtain ⟨name, value, tail, pieces, tree, others, rfl, -, hname, -, -⟩ := h.exists_continued
  obtain @⟨before, chars, after, space, pieces, hbefore, -, -, -⟩ := hname
  have htext : before ++ '"' :: (chars ++ '"' :: (after ++ ':' :: space)) ++ (value ++ tail) ++
      rest = before ++ '"' ::
        (chars ++ '"' :: (after ++ ':' :: space) ++ (value ++ tail) ++ rest) := by simp
  exact ⟨_, by rw [htext, hbefore.skip_append rfl]⟩

mutual

/-- A value is skipped in no more steps than it has characters, whatever containers are open. -/
theorem Spells.skips {cs : List Char} {tree : Tree} (h : Spells cs tree) :
    ∃ k ≤ cs.length, ∀ n stack rest, Stops rest →
      skipOpen (n + k) .value stack (cs ++ rest) = skipOpen n .more stack rest := by
  have hscalar : tree.isContainer = false → ∃ k ≤ cs.length, ∀ n stack rest, Stops rest →
      skipOpen (n + k) .value stack (cs ++ rest) = skipOpen n .more stack rest := by
    intro hscalar
    refine ⟨1, ?_, fun n stack rest hrest => skipOpen_scalar h hscalar hrest⟩
    obtain ⟨c, more, rfl, -⟩ := h.head
    exact Nat.succ_le_succ (Nat.zero_le _)
  match h with
  | .null => exact hscalar rfl
  | .yes => exact hscalar rfl
  | .no => exact hscalar rfl
  | .number hn => exact hscalar rfl
  | .text hpieces => exact hscalar rfl
  | .emptyArray hblank =>
    refine ⟨1, by simp, fun n stack rest _ => ?_⟩
    have htext : ∀ blank : List Char, '[' :: (blank ++ [']']) ++ rest =
        '[' :: (blank ++ ']' :: rest) := by simp
    rw [htext, skipOpen_openBracket, hblank.skip_append rfl]
    rfl
  | .array hitems =>
    obtain ⟨k, hk, hskips⟩ := hitems.skips
    refine ⟨k + 1, by simp only [List.length_cons, List.length_append]; omega,
      fun n stack rest _ => ?_⟩
    obtain ⟨c, chars, tail, item, others, -, hfirst, hc, -, -⟩ := hitems.skipBlanks (']' :: rest)
    have htext : ∀ cs : List Char, '[' :: (cs ++ [']']) ++ rest = '[' :: (cs ++ ']' :: rest) := by
      simp
    rw [htext, ← Nat.add_assoc, skipOpen_array hfirst hc, hskips]
  | .emptyObject hblank =>
    refine ⟨1, by simp, fun n stack rest _ => ?_⟩
    have htext : ∀ blank : List Char, '\x7b' :: (blank ++ ['\x7d']) ++ rest =
        '\x7b' :: (blank ++ '\x7d' :: rest) := by simp
    rw [htext, skipOpen_openBrace, hblank.skip_append rfl]
    rfl
  | .object hmembers =>
    obtain ⟨k, hk, hskips⟩ := hmembers.skips
    refine ⟨k + 1, by simp only [List.length_cons, List.length_append]; omega,
      fun n stack rest _ => ?_⟩
    obtain ⟨more, hfirst⟩ := hmembers.skipBlanks ('\x7d' :: rest)
    have htext : ∀ cs : List Char, '\x7b' :: (cs ++ ['\x7d']) ++ rest =
        '\x7b' :: (cs ++ '\x7d' :: rest) := by simp
    rw [htext, ← Nat.add_assoc, skipOpen_object hfirst (by decide), hskips]

theorem SpellsItems.skips {cs : List Char} {items : List Tree} (h : SpellsItems cs items) :
    ∃ k ≤ cs.length + 1, ∀ n stack rest,
      skipOpen (n + k) .value (.array :: stack) (cs ++ ']' :: rest) =
        skipOpen n .more stack rest := by
  match h with
  | .last hbefore hitem hafter =>
    obtain ⟨k, hk, hskips⟩ := hitem.skips
    refine ⟨1 + k, by simp only [List.length_append]; omega, fun n stack rest => ?_⟩
    rw [List.append_assoc, List.append_assoc, skipOpen_blank_append hbefore hitem.leaves_blank,
      ← Nat.add_assoc, hskips _ _ _ (hafter.stops Closes.bracket.stops), skipOpen_bracket hafter]
  | .more hbefore hitem hafter hothers =>
    obtain ⟨k, hk, hskips⟩ := hitem.skips
    obtain ⟨k', hk', hskips'⟩ := hothers.skips
    refine ⟨k' + 1 + k, by simp only [List.length_append, List.length_cons]; omega,
      fun n stack rest => ?_⟩
    rw [List.append_assoc, List.append_assoc, List.append_assoc, List.cons_append,
      skipOpen_blank_append hbefore hitem.leaves_blank, ← Nat.add_assoc, ← Nat.add_assoc,
      hskips _ _ _ (hafter.stops Closes.comma.stops), skipOpen_comma_array hafter, hskips']

theorem SpellsMembers.skips {cs : List Char} {members : List (List Piece × Tree)}
    (h : SpellsMembers cs members) :
    ∃ k ≤ cs.length + 1, ∀ n stack rest,
      skipName (cs ++ '\x7d' :: rest) >>= skipOpen (n + k) .value (.object :: stack) =
        skipOpen n .more stack rest := by
  match h with
  | .last hname hvalue hafter =>
    obtain ⟨k, hk, hskips⟩ := hvalue.skips
    obtain ⟨space, hspace, hskip⟩ := hname.skipName
    refine ⟨1 + k, by simp only [List.length_append]; omega, fun n stack rest => ?_⟩
    rw [List.append_assoc, List.append_assoc, hskip, ok_bind,
      skipOpen_blank_append hspace hvalue.leaves_blank, ← Nat.add_assoc,
      hskips _ _ _ (hafter.stops Closes.brace.stops), skipOpen_brace hafter]
  | .more hname hvalue hafter hothers =>
    obtain ⟨k, hk, hskips⟩ := hvalue.skips
    obtain ⟨k', hk', hskips'⟩ := hothers.skips
    obtain ⟨space, hspace, hskip⟩ := hname.skipName
    refine ⟨k' + 1 + k, by simp only [List.length_append, List.length_cons]; omega,
      fun n stack rest => ?_⟩
    rw [List.append_assoc, List.append_assoc, List.append_assoc, List.cons_append, hskip,
      ok_bind, skipOpen_blank_append hspace hvalue.leaves_blank, ← Nat.add_assoc,
      ← Nat.add_assoc, hskips _ _ _ (hafter.stops Closes.comma.stops),
      skipOpen_comma_object hafter, hskips']

end

/-- A value is skipped, with the blanks before it. -/
theorem Spells.skipValue {blank cs rest : List Char} {tree : Tree} (hblank : Blank blank)
    (h : Spells cs tree) (hrest : Stops rest) : skipValue (blank ++ (cs ++ rest)) = .ok rest := by
  obtain ⟨k, hk, hskips⟩ := h.skips
  have hsteps : (blank ++ (cs ++ rest)).length + 1 =
      blank.length + rest.length + (cs.length - k) + 1 + k := by
    simp only [List.length_append]
    omega
  rw [Json.skipValue, skipOpen_blank_append hblank h.leaves_blank, hsteps, hskips _ _ _ hrest]
  rfl

/-- What was skipped is a value, with the blanks before it. -/
theorem spells_of_skipValue {cs rest : List Char} (h : skipValue cs = .ok rest) :
    ∃ blank value tree, cs = blank ++ (value ++ rest) ∧ Blank blank ∧ Spells value tree := by
  obtain ⟨blank, value, tree, others, rfl, hblank, hvalue, rfl⟩ := (skipOpen_completes _).2 _ _ h
  exact ⟨blank, value, tree, rfl, hblank, hvalue⟩

end Json
end FailOpen
