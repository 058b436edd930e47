import FailOpen.Startup.Port
import Mathlib.Logic.Basic

/-!
# Which texts are ports

A text is a port if it spells a number below 65536: one or more ASCII digits after at most one plus
sign.  Any other text has exactly one fault.  It is found at the first character that ends the
reading: one that is no digit, or a digit with which the number becomes too large.
-/

namespace FailOpen
namespace Startup
namespace Port

/-- One or more digits and their value. -/
structure Numeral (digits : List Char) (n : Nat) : Prop where
  nonempty : digits ≠ []
  isDigit : ∀ c ∈ digits, c.isDigit
  value : n = Nat.ofDigitChars 10 digits 0

/-- A numeral, with or without a plus sign. -/
inductive Spells : List Char → Nat → Prop where
  | plain {digits : List Char} {n : Nat} (h : Numeral digits n) : Spells digits n
  | signed {digits : List Char} {n : Nat} (h : Numeral digits n) : Spells ('+' :: digits) n

/-- Where reading on from a number ends: after digits that keep it small enough, there is a
character that is no digit, or a digit that makes it too large. -/
inductive Stops (value : Nat) : List Char → PortFault → Prop where
  | invalidDigit {before after : List Char} {c : Char}
      (digits : ∀ b ∈ before, b.isDigit) (small : Nat.ofDigitChars 10 before value < bound)
      (other : ¬ c.isDigit) : Stops value (before ++ c :: after) .invalidDigit
  | tooLarge {before after : List Char} {c : Char}
      (digits : ∀ b ∈ before, b.isDigit) (small : Nat.ofDigitChars 10 before value < bound)
      (digit : c.isDigit) (large : bound ≤ Nat.ofDigitChars 10 (before ++ [c]) value) :
      Stops value (before ++ c :: after) .tooLarge

/-- What is wrong with a text that is no port. -/
inductive Faulty : List Char → PortFault → Prop where
  | empty : Faulty [] .empty
  | sign : Faulty ['+'] .invalidDigit
  | plain {text : List Char} {fault : PortFault} (unsigned : text.head? ≠ some '+')
      (h : Stops 0 text fault) : Faulty text fault
  | signed {text : List Char} {fault : PortFault} (h : Stops 0 text fault) :
      Faulty ('+' :: text) fault

/-! ## Digits -/

theorem digit?_of_isDigit {c : Char} (h : c.isDigit) : digit? c = some (c.toNat - '0'.toNat) := by
  unfold digit?
  rw [if_pos (by simpa [Char.isDigit, Char.le_def] using h)]
  rfl

theorem digit?_of_not_isDigit {c : Char} (h : ¬ c.isDigit) : digit? c = none := by
  unfold digit?
  rw [if_neg (by simpa [Char.isDigit, Char.le_def] using h)]

/-- Digits do not make a number smaller. -/
theorem le_ofDigitChars (value : Nat) (cs : List Char) : value ≤ Nat.ofDigitChars 10 cs value := by
  induction cs generalizing value with
  | nil => exact Nat.le_refl value
  | cons c cs ih =>
    rw [Nat.ofDigitChars_cons]
    refine Nat.le_trans ?_ (ih _)
    omega

/-- Reading goes past digits as long as the number stays small enough. -/
theorem readDigits_append {value : Nat} {before : List Char} (rest : List Char)
    (hdigits : ∀ c ∈ before, c.isDigit) (hsmall : Nat.ofDigitChars 10 before value < bound) :
    readDigits value (before ++ rest) =
      readDigits (Nat.ofDigitChars 10 before value) rest := by
  induction before generalizing value with
  | nil => rfl
  | cons c cs ih =>
    rw [Nat.ofDigitChars_cons] at hsmall ⊢
    have hvalue : value * 10 + (c.toNat - '0'.toNat) < bound :=
      Nat.lt_of_le_of_lt (by rw [Nat.mul_comm]; exact le_ofDigitChars _ cs) hsmall
    rw [List.cons_append, readDigits, digit?_of_isDigit (hdigits c List.mem_cons_self)]
    simp only
    rw [if_pos hvalue, Nat.mul_comm value 10]
    exact ih (fun d hd => hdigits d (List.mem_cons_of_mem c hd)) hsmall

theorem Stops.readDigits {value : Nat} {text : List Char} {fault : PortFault}
    (h : Stops value text fault) : readDigits value text = .error fault := by
  cases h with
  | invalidDigit hdigits hsmall hother =>
    rw [readDigits_append _ hdigits hsmall, Port.readDigits, digit?_of_not_isDigit hother]
  | tooLarge hdigits hsmall hdigit hlarge =>
    rw [Nat.ofDigitChars_append, Nat.ofDigitChars_cons, Nat.ofDigitChars_nil,
      Nat.mul_comm] at hlarge
    rw [readDigits_append _ hdigits hsmall, Port.readDigits, digit?_of_isDigit hdigit]
    simp only
    rw [if_neg (Nat.not_lt.mpr hlarge)]

theorem Stops.cons {value : Nat} {c : Char} {cs : List Char} {fault : PortFault}
    (hdigit : c.isDigit) (h : Stops (10 * value + (c.toNat - '0'.toNat)) cs fault) :
    Stops value (c :: cs) fault := by
  cases h with
  | invalidDigit hdigits hsmall hother =>
    exact @Stops.invalidDigit value (c :: _) _ _ (List.forall_mem_cons.mpr ⟨hdigit, hdigits⟩)
      (by rwa [Nat.ofDigitChars_cons]) hother
  | tooLarge hdigits hsmall hdigit' hlarge =>
    exact @Stops.tooLarge value (c :: _) _ _ (List.forall_mem_cons.mpr ⟨hdigit, hdigits⟩)
      (by rwa [Nat.ofDigitChars_cons]) hdigit' (by rwa [List.cons_append, Nat.ofDigitChars_cons])

/-- A text is read to its end, or reading stops in it. -/
theorem digits_or_stops {value : Nat} (cs : List Char) (hvalue : value < bound) :
    ((∀ c ∈ cs, c.isDigit) ∧ Nat.ofDigitChars 10 cs value < bound) ∨
      ∃ fault, Stops value cs fault := by
  induction cs generalizing value with
  | nil => exact .inl ⟨fun c hc => (nomatch hc), hvalue⟩
  | cons c cs ih =>
    by_cases hdigit : c.isDigit
    · by_cases hsmall : 10 * value + (c.toNat - '0'.toNat) < bound
      · rcases ih hsmall with ⟨hdigits, hend⟩ | ⟨fault, hstops⟩
        · refine .inl ⟨List.forall_mem_cons.mpr ⟨hdigit, hdigits⟩, ?_⟩
          rwa [Nat.ofDigitChars_cons]
        · exact .inr ⟨fault, hstops.cons hdigit⟩
      · refine .inr ⟨_, @Stops.tooLarge value [] cs c (fun d hd => (nomatch hd)) hvalue hdigit ?_⟩
        rw [List.nil_append, Nat.ofDigitChars_cons, Nat.ofDigitChars_nil]
        exact Nat.not_lt.mp hsmall
    · exact .inr ⟨_, @Stops.invalidDigit value [] cs c (fun d hd => (nomatch hd)) hvalue hdigit⟩

/-! ## Texts -/

theorem read_plus {digits : List Char} (hne : digits ≠ []) :
    read ('+' :: digits) = (readDigits 0 digits).map UInt16.ofNat := by
  cases digits with
  | nil => exact absurd rfl hne
  | cons c cs => rfl

theorem read_of_head?_ne {text : List Char} (hne : text ≠ []) (hplus : text.head? ≠ some '+') :
    read text = (readDigits 0 text).map UInt16.ofNat := by
  unfold read
  split
  · exact absurd rfl hne
  · exact absurd rfl hplus
  · exact absurd rfl hplus
  · rfl

theorem Stops.ne_nil {value : Nat} {text : List Char} {fault : PortFault}
    (h : Stops value text fault) : text ≠ [] := by
  cases h <;> exact List.append_ne_nil_of_right_ne_nil _ (List.cons_ne_nil _ _)

theorem Numeral.readDigits {digits : List Char} {n : Nat} (h : Numeral digits n)
    (hn : n < bound) : readDigits 0 digits = .ok n := by
  have hread := readDigits_append [] h.isDigit (h.value ▸ hn)
  rwa [List.append_nil, Port.readDigits, ← h.value] at hread

/-- A sign is no digit. -/
theorem Numeral.head?_ne {digits : List Char} {n : Nat} (h : Numeral digits n) :
    digits.head? ≠ some '+' := by
  intro hplus
  exact absurd (h.isDigit _ (List.mem_of_head? hplus)) (by decide)

theorem Spells.read {text : List Char} {n : Nat} (h : Spells text n) (hn : n < bound) :
    read text = .ok (UInt16.ofNat n) := by
  cases h with
  | plain h => rw [read_of_head?_ne h.nonempty h.head?_ne, h.readDigits hn]; rfl
  | signed h => rw [read_plus h.nonempty, h.readDigits hn]; rfl

theorem Faulty.read {text : List Char} {fault : PortFault} (h : Faulty text fault) :
    read text = .error fault := by
  cases h with
  | empty => rfl
  | sign => rfl
  | plain hplus h => rw [read_of_head?_ne h.ne_nil hplus, h.readDigits]; rfl
  | signed h => rw [read_plus h.ne_nil, h.readDigits]; rfl

/-- A text spells a port or has a fault. -/
theorem spells_or_faulty (text : List Char) :
    (∃ n, Spells text n ∧ n < bound) ∨ ∃ fault, Faulty text fault := by
  have hbody (digits : List Char) (hne : digits ≠ []) :
      (∃ n, Numeral digits n ∧ n < bound) ∨ ∃ fault, Stops 0 digits fault :=
    (digits_or_stops digits (by decide)).imp_left fun ⟨hdigits, hsmall⟩ =>
      ⟨_, ⟨hne, hdigits, rfl⟩, hsmall⟩
  by_cases hplus : text.head? = some '+'
  · obtain ⟨digits, rfl⟩ := List.head?_eq_some_iff.mp hplus
    rcases eq_or_ne digits [] with rfl | hne
    · exact .inr ⟨_, .sign⟩
    · rcases hbody digits hne with ⟨n, hnumeral, hn⟩ | ⟨fault, hstops⟩
      · exact .inl ⟨n, .signed hnumeral, hn⟩
      · exact .inr ⟨fault, .signed hstops⟩
  · rcases eq_or_ne text [] with rfl | hne
    · exact .inr ⟨_, .empty⟩
    · rcases hbody text hne with ⟨n, hnumeral, hn⟩ | ⟨fault, hstops⟩
      · exact .inl ⟨n, .plain hnumeral, hn⟩
      · exact .inr ⟨fault, .plain hplus hstops⟩

theorem read_eq_ok_iff {text : List Char} {port : UInt16} :
    read text = .ok port ↔ Spells text port.toNat := by
  constructor
  · intro hread
    rcases spells_or_faulty text with ⟨n, hspells, hn⟩ | ⟨fault, hfaulty⟩
    · rw [hspells.read hn] at hread
      rw [← Except.ok.inj hread, UInt16.toNat_ofNat_of_lt' hn]
      exact hspells
    · rw [hfaulty.read] at hread
      cases hread
  · intro hspells
    rw [hspells.read port.toNat_lt, UInt16.ofNat_toNat]

theorem read_eq_error_iff {text : List Char} {fault : PortFault} :
    read text = .error fault ↔ Faulty text fault := by
  constructor
  · intro hread
    rcases spells_or_faulty text with ⟨n, hspells, hn⟩ | ⟨other, hfaulty⟩
    · rw [hspells.read hn] at hread
      cases hread
    · rw [hfaulty.read] at hread
      rwa [← Except.error.inj hread]
  · exact Faulty.read

/-- A text that spells a port has no fault. -/
theorem Spells.not_faulty {text : List Char} {n : Nat} (h : Spells text n) (hn : n < bound)
    {fault : PortFault} : ¬ Faulty text fault := by
  intro hfaulty
  have hread := h.read hn
  rw [hfaulty.read] at hread
  cases hread

/-- Ports are spelled with digits and a plus sign. -/
theorem Spells.nul_notMem {text : List Char} {n : Nat} (h : Spells text n) : '\x00' ∉ text := by
  have hdigits {digits : List Char} {n : Nat} (h : Numeral digits n) : '\x00' ∉ digits :=
    fun hmem => absurd (h.isDigit _ hmem) (by decide)
  cases h with
  | plain h => exact hdigits h
  | signed h => exact List.not_mem_cons_of_ne_of_not_mem (by decide) (hdigits h)

end Port
end Startup
end FailOpen
