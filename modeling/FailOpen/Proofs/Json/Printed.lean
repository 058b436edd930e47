import FailOpen.Json.Number
import FailOpen.Json.Value
import FailOpen.Proofs.Json.Grammar

/-!
# Compact texts are documents

The compact text of a value spells the document of that value.  `Value.tree` is this document:
strings are written piece by piece, and numbers by their decimal digits.  So the text can be read
back, whatever is in the strings of the value.

* `spellsPiece_escapeChar` is the step for characters, with all cases of escaping.
* `Value.spells_chars` is the induction over values.
* `Value.visible_chars` says that the text of a value is a single line.
-/

namespace FailOpen
namespace Json

/-! ## Strings -/

/-- How a character is written: the control characters without a letter of their own are written as
code units. -/
def pieceOf (c : Char) : Piece :=
  if c.toNat < 0x20 ∧ c ∉ ['\x08', '\x0c', '\n', '\r', '\t'] then .unit c.toNat else .plain c

theorem hexDigit?_digitChar {n : Nat} (h : n < 16) :
    Text.Hex.digit? (Nat.digitChar n) = some n := by
  have hall : ∀ m < 16, Text.Hex.digit? (Nat.digitChar m) = some m := by decide
  exact hall n h

theorem spellsPiece_escapeChar (c : Char) : SpellsPiece (escapeChar c) (pieceOf c) := by
  unfold escapeChar
  split
  case h_8 hquote hbackslash hb hf hn hr ht =>
    split
    next hcontrol =>
      have hlettered : c ∉ ['\x08', '\x0c', '\n', '\r', '\t'] := by
        simp only [List.mem_cons, List.not_mem_nil, or_false, not_or]
        exact ⟨hb, hf, hn, hr, ht⟩
      have hunit : pieceOf c = .unit (((0 * 16 + 0) * 16 + c.toNat / 16) * 16 + c.toNat % 16) := by
        rw [pieceOf, if_pos ⟨hcontrol, hlettered⟩]
        congr 1
        omega
      rw [hunit]
      exact .unit (by decide) (by decide) (hexDigit?_digitChar (by omega))
        (hexDigit?_digitChar (by omega))
    next hcontrol =>
      rw [pieceOf, if_neg fun h => hcontrol h.1]
      exact .raw hquote hbackslash (Nat.le_of_not_lt hcontrol)
  all_goals exact .escape rfl

theorem spellsPieces_escape (cs : List Char) :
    SpellsPieces (cs.flatMap escapeChar) (cs.map pieceOf) := by
  induction cs with
  | nil => exact .nil
  | cons c cs ih => exact .cons (spellsPiece_escapeChar c) ih

/-- A code unit that is no half of a character is a character. -/
theorem decode_unit {n : Nat} (htrailing : isTrailingSurrogate n = false)
    (hleading : isLeadingSurrogate n = false) (pieces : List Piece) :
    Piece.decode (.unit n :: pieces) = (Char.ofNat n :: ·) <$> Piece.decode pieces := by
  rw [Piece.decode.eq_def (.unit n :: pieces)]
  simp only [htrailing, hleading, Bool.false_eq_true, if_false]

/-- What is written makes the same characters again. -/
theorem decode_map_pieceOf (cs : List Char) : Piece.decode (cs.map pieceOf) = some cs := by
  induction cs with
  | nil => rfl
  | cons c cs ih =>
    rw [List.map_cons, pieceOf]
    split
    next hcontrol =>
      have hno : isTrailingSurrogate c.toNat = false ∧ isLeadingSurrogate c.toNat = false := by
        simp [isTrailingSurrogate, isLeadingSurrogate]
        omega
      rw [decode_unit hno.1 hno.2, ih, Char.ofNat_toNat]
      rfl
    next => rw [Piece.decode, ih]; rfl

/-! ## Numbers -/

theorem isDigit_of_isDigit {c : Char} (h : c.isDigit) : isDigit c := by
  simpa [isDigit, Char.isDigit, Char.le_def] using h

theorem digits_digits (n : Nat) : Digits (digits n) :=
  ⟨Nat.toDigits_ne_nil, fun _ hc =>
    isDigit_of_isDigit (Nat.isDigit_of_mem_toDigits (by decide) (by decide) hc)⟩

/-- The digits of a number do not begin with a zero, unless the number is zero. -/
theorem wholeDigits_digits (n : Nat) : WholeDigits (digits n) := by
  refine ⟨digits_digits n, ?_⟩
  induction n using Nat.strongRecOn with
  | ind n ih =>
    unfold digits
    by_cases hsmall : n < 10
    · rw [Nat.toDigits_of_lt_base hsmall]
      have hdigit : ∀ m < 10, [Nat.digitChar m].head? = some '0' → [Nat.digitChar m] = ['0'] := by
        decide
      exact hdigit n hsmall
    · have hsplit : Nat.toDigits 10 n = digits (n / 10) ++ [Nat.digitChar (n % 10)] :=
        Nat.toDigits_of_base_le (by decide) (Nat.le_of_not_lt hsmall)
      obtain ⟨c, rest, hhead, -⟩ := (digits_digits (n / 10)).head
      rw [hsplit, hhead]
      intro hzero
      have hten : digits (n / 10) = ['0'] := ih (n / 10) (by omega) (by rw [hhead]; exact hzero)
      -- only zero is written with a single zero
      have hvalue := congrArg (Nat.ofDigitChars 10 · 0) hten
      simp only [digits, Nat.ofDigitChars_ten_toDigits] at hvalue
      have : n / 10 = 0 := hvalue
      omega

theorem digitsValue_digits (n : Nat) : digitsValue (digits n) = n := by
  have hfold : digitsValue (digits n) = Nat.ofDigitChars 10 (digits n) 0 := by
    unfold digitsValue digitValue Nat.ofDigitChars
    congr
    funext m c
    rw [Nat.mul_comm]
    rfl
  rw [hfold, digits, Nat.ofDigitChars_ten_toDigits]

/-! ## Values -/

mutual

/-- The document that the compact text of a value spells. -/
def Value.tree : Value → Tree
  | .text s => .text (s.toList.map pieceOf)
  | .flag b => .flag b
  | .number n => .number ⟨false, digits n, none, none⟩
  | .array items => .array (Value.trees items)
  | .object members => .object (Value.memberTrees members)

def Value.trees : List Value → List Tree
  | [] => []
  | item :: rest => item.tree :: Value.trees rest

def Value.memberTrees : List (String × Value) → List (List Piece × Tree)
  | [] => []
  | (name, value) :: rest => (name.toList.map pieceOf, value.tree) :: Value.memberTrees rest

end

theorem Value.trees_eq_map (items : List Value) : trees items = items.map tree := by
  induction items with
  | nil => rfl
  | cons item rest ih => rw [trees, ih, List.map_cons]

theorem blank_nil : Blank [] :=
  fun _ h => (nomatch h)

theorem spellsName_escapeText (name : String) :
    SpellsName (escapeText name ++ [':']) (name.toList.map pieceOf) := by
  have hname := SpellsName.mk blank_nil (spellsPieces_escape name.toList) blank_nil blank_nil
  simpa [escapeText] using hname

mutual

/-- **The compact text of a value spells its document.** -/
theorem Value.spells_chars : (value : Value) → Spells value.chars value.tree
  | .text s => .text (spellsPieces_escape s.toList)
  | .flag true => .yes
  | .flag false => .no
  | .number n => by
    have hnumeral := SpellsNumeral.positive (wholeDigits_digits n) .absent .absent
    rw [List.append_nil, List.append_nil] at hnumeral
    exact .number hnumeral
  | .array [] => .emptyArray blank_nil
  | .array (item :: rest) =>
    .array (Value.spellsItems_itemChars (item :: rest) (List.cons_ne_nil _ _))
  | .object [] => .emptyObject blank_nil
  | .object (member :: rest) =>
    .object (Value.spellsMembers_memberChars (member :: rest) (List.cons_ne_nil _ _))

theorem Value.spellsItems_itemChars : (items : List Value) → items ≠ [] →
    SpellsItems (Value.itemChars items) (Value.trees items)
  | [], hne => absurd rfl hne
  | [item], _ => by
    have hlast := SpellsItems.last blank_nil item.spells_chars blank_nil
    rwa [List.append_nil] at hlast
  | item :: next :: rest, _ =>
    .more blank_nil item.spells_chars blank_nil
      (Value.spellsItems_itemChars (next :: rest) (List.cons_ne_nil _ _))

theorem Value.spellsMembers_memberChars : (members : List (String × Value)) → members ≠ [] →
    SpellsMembers (Value.memberChars members) (Value.memberTrees members)
  | [], hne => absurd rfl hne
  | [(name, value)], _ => by
    have hlast := SpellsMembers.last (spellsName_escapeText name) value.spells_chars blank_nil
    rw [List.append_nil, List.append_assoc] at hlast
    exact hlast
  | (name, value) :: next :: rest, _ => by
    have hmore := SpellsMembers.more (spellsName_escapeText name) value.spells_chars blank_nil
      (Value.spellsMembers_memberChars (next :: rest) (List.cons_ne_nil _ _))
    have hchars : Value.memberChars ((name, value) :: next :: rest) =
        escapeText name ++ ':' :: (value.chars ++ ',' :: Value.memberChars (next :: rest)) :=
      List.append_assoc _ _ _
    rw [List.append_assoc] at hmore
    rw [hchars]
    exact hmore

end

theorem Value.document_compact (value : Value) : Document value.compact value.tree := by
  refine ⟨[], value.chars, [], ?_, blank_nil, value.spells_chars, blank_nil⟩
  rw [compact, String.toList_ofList, List.append_nil]
  rfl

/-! ## A single line -/

/-- No character is below U+0020. -/
def Visible (cs : List Char) : Prop :=
  ∀ c ∈ cs, 0x20 ≤ c.toNat

theorem visible_of_all {cs : List Char} (h : cs.all (0x20 ≤ ·.toNat)) : Visible cs :=
  fun c hc => of_decide_eq_true (List.all_eq_true.mp h c hc)

theorem visible_cons {c : Char} {cs : List Char} (hc : 0x20 ≤ c.toNat) (hcs : Visible cs) :
    Visible (c :: cs) :=
  List.forall_mem_cons.mpr ⟨hc, hcs⟩

theorem Visible.append {cs others : List Char} (hcs : Visible cs) (hothers : Visible others) :
    Visible (cs ++ others) :=
  List.forall_mem_append.mpr ⟨hcs, hothers⟩

theorem visible_escapeChar (c : Char) : Visible (escapeChar c) := by
  have hhex : ∀ n < 16, 0x20 ≤ (Nat.digitChar n).toNat := by decide
  unfold escapeChar
  split
  case h_8 =>
    split
    next hcontrol =>
      have hhigh := hhex (c.toNat / 16) (by omega)
      have hlow := hhex (c.toNat % 16) (by omega)
      exact visible_cons (by decide) (visible_cons (by decide) (visible_cons (by decide)
        (visible_cons (by decide) (visible_cons hhigh (List.forall_mem_singleton.mpr hlow)))))
    next hcontrol => exact List.forall_mem_singleton.mpr (Nat.le_of_not_lt hcontrol)
  all_goals exact visible_of_all (by decide)

theorem visible_escapeText (s : String) : Visible (escapeText s) := by
  have hinner : Visible (s.toList.flatMap escapeChar) := by
    intro c hc
    obtain ⟨source, -, hwritten⟩ := List.mem_flatMap.mp hc
    exact visible_escapeChar source c hwritten
  exact visible_cons (by decide) hinner |>.append (List.forall_mem_singleton.mpr (by decide))

theorem visible_digits (n : Nat) : Visible (digits n) := by
  intro c hc
  have hdigit := (digits_digits n).2 c hc
  simp only [isDigit, Bool.and_eq_true, decide_eq_true_eq, Char.le_def] at hdigit
  exact Nat.le_trans (by decide) hdigit.1

mutual

theorem Value.visible_chars : (value : Value) → Visible value.chars
  | .text s => visible_escapeText s
  | .flag true => visible_of_all (by decide)
  | .flag false => visible_of_all (by decide)
  | .number n => visible_digits n
  | .array items =>
    (visible_cons (by decide) (Value.visible_itemChars items)).append
      (List.forall_mem_singleton.mpr (by decide))
  | .object members =>
    (visible_cons (by decide) (Value.visible_memberChars members)).append
      (List.forall_mem_singleton.mpr (by decide))

theorem Value.visible_itemChars : (items : List Value) → Visible (Value.itemChars items)
  | [] => fun _ h => (nomatch h)
  | [item] => item.visible_chars
  | item :: next :: rest =>
    item.visible_chars.append (visible_cons (by decide) (Value.visible_itemChars (next :: rest)))

theorem Value.visible_memberChars : (members : List (String × Value)) →
    Visible (Value.memberChars members)
  | [] => fun _ h => (nomatch h)
  | [(name, value)] =>
    (visible_escapeText name).append (visible_cons (by decide) value.visible_chars)
  | (name, value) :: next :: rest =>
    ((visible_escapeText name).append (visible_cons (by decide) value.visible_chars)).append
      (visible_cons (by decide) (Value.visible_memberChars (next :: rest)))

end

end Json
end FailOpen
