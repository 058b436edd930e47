import FailOpen.Json.Scan

/-!
# The grammar of JSON

JSON as a grammar, apart from every reader and every writer: which texts spell which documents.  A
`Tree` is a document as it is meant, without its blanks; strings are kept as `Piece`s, since a `\u`
escape names a UTF-16 code unit and not a character.  `Piece.decode` puts the halves of characters
together, and fails where one of them is missing.

* `Spells` and its companions are the rules, one constructor for each.
* `Spells.unique` is the step: of two values at the front of one text neither goes on where the
  other has ended, unless a number could go on.
* `Document.unique` follows: no text spells two documents.

The size of numbers and the depth of nesting are not limited.
-/

namespace FailOpen
namespace Json

/-! ## Documents -/

/-- What a character or an escape in a string stands for. -/
inductive Piece where
  | plain (c : Char)
  /-- A UTF-16 code unit. -/
  | unit (n : Nat)
  deriving DecidableEq, Repr

/-- The characters that pieces make together.  A half of a character must be followed by the other
half. -/
def Piece.decode : List Piece → Option (List Char)
  | [] => some []
  | .plain c :: pieces => (c :: ·) <$> decode pieces
  | .unit n :: pieces =>
    if isTrailingSurrogate n then none
    else if isLeadingSurrogate n then
      match pieces with
      | .unit m :: pieces =>
        if isTrailingSurrogate m then (pairedChar n m :: ·) <$> decode pieces else none
      | _ => none
    else (Char.ofNat n :: ·) <$> decode pieces

/-- A JSON document.  The members of an object keep their order, and names may be repeated. -/
inductive Tree where
  | null
  | flag (b : Bool)
  | number (n : Numeral)
  | text (pieces : List Piece)
  | array (items : List Tree)
  | object (members : List (List Piece × Tree))

/-! ## The rules -/

def Blank (cs : List Char) : Prop :=
  ∀ c ∈ cs, isBlank c

/-- One or more digits. -/
def Digits (cs : List Char) : Prop :=
  cs ≠ [] ∧ ∀ c ∈ cs, isDigit c

/-- The digits before the point: a leading zero stands alone. -/
def WholeDigits (cs : List Char) : Prop :=
  Digits cs ∧ (cs.head? = some '0' → cs = ['0'])

inductive SpellsFraction : List Char → Option (List Char) → Prop
  | absent : SpellsFraction [] none
  | present {digits : List Char} (h : Digits digits) : SpellsFraction ('.' :: digits) (some digits)

/-- The sign of an exponent, and whether it is negative. -/
inductive SpellsSign : List Char → Bool → Prop
  | absent : SpellsSign [] false
  | plus : SpellsSign ['+'] false
  | minus : SpellsSign ['-'] true

inductive SpellsExponent : List Char → Option (Bool × List Char) → Prop
  | absent : SpellsExponent [] none
  | present {e : Char} {sign digits : List Char} {negative : Bool} (he : e = 'e' ∨ e = 'E')
      (hsign : SpellsSign sign negative) (hdigits : Digits digits) :
      SpellsExponent (e :: (sign ++ digits)) (some (negative, digits))

inductive SpellsNumeral : List Char → Numeral → Prop
  | positive {whole fraction exponent : List Char} {f : Option (List Char)}
      {e : Option (Bool × List Char)} (hwhole : WholeDigits whole)
      (hfraction : SpellsFraction fraction f) (hexponent : SpellsExponent exponent e) :
      SpellsNumeral (whole ++ (fraction ++ exponent)) ⟨false, whole, f, e⟩
  | negative {whole fraction exponent : List Char} {f : Option (List Char)}
      {e : Option (Bool × List Char)} (hwhole : WholeDigits whole)
      (hfraction : SpellsFraction fraction f) (hexponent : SpellsExponent exponent e) :
      SpellsNumeral ('-' :: (whole ++ (fraction ++ exponent))) ⟨true, whole, f, e⟩

inductive SpellsPiece : List Char → Piece → Prop
  | raw {c : Char} (hquote : c ≠ '"') (hescape : c ≠ '\\') (hcontrol : 0x20 ≤ c.toNat) :
      SpellsPiece [c] (.plain c)
  | escape {c meaning : Char} (h : simpleEscape? c = some meaning) :
      SpellsPiece ['\\', c] (.plain meaning)
  | unit {a b c d : Char} {i j k l : Nat} (ha : Text.Hex.digit? a = some i)
      (hb : Text.Hex.digit? b = some j) (hc : Text.Hex.digit? c = some k)
      (hd : Text.Hex.digit? d = some l) :
      SpellsPiece ['\\', 'u', a, b, c, d] (.unit (((i * 16 + j) * 16 + k) * 16 + l))

/-- What stands between the quotes of a string. -/
inductive SpellsPieces : List Char → List Piece → Prop
  | nil : SpellsPieces [] []
  | cons {cs rest : List Char} {piece : Piece} {pieces : List Piece} (hpiece : SpellsPiece cs piece)
      (hpieces : SpellsPieces rest pieces) : SpellsPieces (cs ++ rest) (piece :: pieces)

/-- The name of a member with its colon, and the blanks around them. -/
inductive SpellsName : List Char → List Piece → Prop
  | mk {before cs after space : List Char} {pieces : List Piece} (hbefore : Blank before)
      (h : SpellsPieces cs pieces) (hafter : Blank after) (hspace : Blank space) :
      SpellsName (before ++ '"' :: (cs ++ '"' :: (after ++ ':' :: space))) pieces

mutual

/-- A value, without the blanks around it. -/
inductive Spells : List Char → Tree → Prop
  | null : Spells ['n', 'u', 'l', 'l'] .null
  | yes : Spells ['t', 'r', 'u', 'e'] (.flag true)
  | no : Spells ['f', 'a', 'l', 's', 'e'] (.flag false)
  | number {cs : List Char} {n : Numeral} (h : SpellsNumeral cs n) : Spells cs (.number n)
  | text {cs : List Char} {pieces : List Piece} (h : SpellsPieces cs pieces) :
      Spells ('"' :: (cs ++ ['"'])) (.text pieces)
  | emptyArray {blank : List Char} (h : Blank blank) : Spells ('[' :: (blank ++ [']'])) (.array [])
  | array {cs : List Char} {items : List Tree} (h : SpellsItems cs items) :
      Spells ('[' :: (cs ++ [']'])) (.array items)
  | emptyObject {blank : List Char} (h : Blank blank) :
      Spells ('\x7b' :: (blank ++ ['\x7d'])) (.object [])
  | object {cs : List Char} {members : List (List Piece × Tree)} (h : SpellsMembers cs members) :
      Spells ('\x7b' :: (cs ++ ['\x7d'])) (.object members)

/-- The items of an array, separated by commas. -/
inductive SpellsItems : List Char → List Tree → Prop
  | last {before cs after : List Char} {item : Tree} (hbefore : Blank before) (h : Spells cs item)
      (hafter : Blank after) : SpellsItems (before ++ (cs ++ after)) [item]
  | more {before cs after others : List Char} {item : Tree} {items : List Tree}
      (hbefore : Blank before) (h : Spells cs item) (hafter : Blank after)
      (hothers : SpellsItems others items) :
      SpellsItems (before ++ (cs ++ (after ++ ',' :: others))) (item :: items)

/-- The members of an object, separated by commas. -/
inductive SpellsMembers : List Char → List (List Piece × Tree) → Prop
  | last {name cs after : List Char} {pieces : List Piece} {value : Tree}
      (hname : SpellsName name pieces) (h : Spells cs value) (hafter : Blank after) :
      SpellsMembers (name ++ (cs ++ after)) [(pieces, value)]
  | more {name cs after others : List Char} {pieces : List Piece} {value : Tree}
      {members : List (List Piece × Tree)} (hname : SpellsName name pieces) (h : Spells cs value)
      (hafter : Blank after) (hothers : SpellsMembers others members) :
      SpellsMembers (name ++ (cs ++ (after ++ ',' :: others))) ((pieces, value) :: members)

end

/-- A text that spells a document. -/
def Document (s : String) (tree : Tree) : Prop :=
  ∃ before cs after, s.toList = before ++ (cs ++ after) ∧
    Blank before ∧ Spells cs tree ∧ Blank after

/-! ## Blanks and digits -/

section

variable {p : Char → Bool} {as bs xs ys : List Char}

/-- The text does not begin with a character of this kind. -/
def Leaves (p : Char → Bool) (cs : List Char) : Prop :=
  ∀ c ∈ cs.head?, p c = false

theorem leaves_cons {c : Char} {cs : List Char} (h : p c = false) : Leaves p (c :: cs) := by
  rintro _ ⟨⟩
  exact h

theorem takeWhile_append_of_leaves (has : ∀ c ∈ as, p c) (hxs : Leaves p xs) :
    (as ++ xs).takeWhile p = as := by
  rw [List.takeWhile_append_of_pos has]
  cases xs with
  | nil => exact List.append_nil as
  | cons x xs => rw [List.takeWhile_cons_of_neg (by simp [hxs x rfl]), List.append_nil]

/-- A run of characters of one kind ends where the kind changes. -/
theorem span_unique (has : ∀ c ∈ as, p c) (hbs : ∀ c ∈ bs, p c) (hxs : Leaves p xs)
    (hys : Leaves p ys) (h : as ++ xs = bs ++ ys) : as = bs ∧ xs = ys := by
  have hrun : as = bs := by
    rw [← takeWhile_append_of_leaves has hxs, h, takeWhile_append_of_leaves hbs hys]
  subst hrun
  exact ⟨rfl, List.append_cancel_left h⟩

end

theorem Blank.unique {as bs xs ys : List Char} (has : Blank as) (hbs : Blank bs)
    (hxs : Leaves isBlank xs) (hys : Leaves isBlank ys) (h : as ++ xs = bs ++ ys) : xs = ys :=
  (span_unique has hbs hxs hys h).2

theorem Digits.head {ds : List Char} (h : Digits ds) : ∃ c rest, ds = c :: rest ∧ isDigit c := by
  obtain ⟨hne, hall⟩ := h
  cases ds with
  | nil => exact absurd rfl hne
  | cons c rest => exact ⟨c, rest, rfl, hall c List.mem_cons_self⟩

theorem Digits.unique {as bs xs ys : List Char} (has : Digits as) (hbs : Digits bs)
    (hxs : Leaves isDigit xs) (hys : Leaves isDigit ys) (h : as ++ xs = bs ++ ys) :
    as = bs ∧ xs = ys :=
  span_unique has.2 hbs.2 hxs hys h

/-! ## Numbers -/

/-- Whether a character lets a number go on. -/
def continuesNumber (c : Char) : Bool :=
  isDigit c || c = '.' || c = 'e' || c = 'E'

section

variable {cs cs' r r' : List Char}

theorem Leaves.mono {p q : Char → Bool} (hpq : ∀ c, q c → p c) (h : Leaves p cs) : Leaves q cs := by
  intro c hc
  rw [← Bool.not_eq_true]
  intro hq
  have hp := h c hc
  rw [hpq c hq] at hp
  cases hp

/-- Whether a character is a sign. -/
def isSign (c : Char) : Bool :=
  c = '+' || c = '-'

theorem Digits.leaves {p : Char → Bool} (hp : ∀ c, p c → isDigit c = false) {ds : List Char}
    (h : Digits ds) : Leaves p (ds ++ r) := by
  obtain ⟨c, rest, rfl, hc⟩ := h.head
  refine leaves_cons ?_
  rw [← Bool.not_eq_true]
  intro hpc
  rw [hp c hpc] at hc
  cases hc

theorem SpellsSign.unique {b b' : Bool} {ds ds' : List Char} (h : SpellsSign cs b)
    (h' : SpellsSign cs' b') (hds : Digits ds) (hds' : Digits ds')
    (heq : cs ++ (ds ++ r) = cs' ++ (ds' ++ r')) : b = b' ∧ ds ++ r = ds' ++ r' := by
  have hsigns : ∀ {cs b}, SpellsSign cs b → ∀ c ∈ cs, isSign c := by
    intro cs b h
    cases h with
    | absent => exact fun c hc => (nomatch hc)
    | plus => exact List.forall_mem_singleton.mpr (by decide)
    | minus => exact List.forall_mem_singleton.mpr (by decide)
  have hdigit : ∀ c, isSign c → isDigit c = false := by
    intro c hc
    simp only [isSign, Bool.or_eq_true, decide_eq_true_eq] at hc
    rcases hc with rfl | rfl <;> decide
  obtain ⟨rfl, hrest⟩ := span_unique (hsigns h) (hsigns h') (hds.leaves hdigit)
    (hds'.leaves hdigit) heq
  refine ⟨?_, hrest⟩
  cases h <;> cases h' <;> rfl

/-- What comes after the digits of a number can neither be read as more digits, nor as a point, nor
as an exponent. -/
abbrev Stops (cs : List Char) : Prop := Leaves continuesNumber cs

theorem Stops.leaves_digit (h : Stops cs) : Leaves isDigit cs :=
  h.mono fun c hc => by simp [continuesNumber, hc]

theorem SpellsExponent.leaves {e : Option (Bool × List Char)} (h : SpellsExponent cs e)
    (hr : Stops r) : Leaves (fun c => isDigit c || c = '.') (cs ++ r) := by
  cases h with
  | absent => exact hr.mono fun c hc => by simp_all [continuesNumber]
  | present he hsign hdigits => rcases he with rfl | rfl <;> exact leaves_cons rfl

theorem SpellsFraction.leaves {f : Option (List Char)} (h : SpellsFraction cs f)
    (hr : Leaves (fun c => isDigit c || c = '.') r) : Leaves isDigit (cs ++ r) := by
  cases h with
  | absent => exact hr.mono fun c hc => by simp [hc]
  | present hdigits => exact leaves_cons rfl

theorem SpellsFraction.unique {f f' : Option (List Char)} (h : SpellsFraction cs f)
    (h' : SpellsFraction cs' f') (hr : Leaves (fun c => isDigit c || c = '.') r)
    (hr' : Leaves (fun c => isDigit c || c = '.') r') (heq : cs ++ r = cs' ++ r') :
    f = f' ∧ r = r' := by
  have hdigit : ∀ {cs}, Leaves (fun c => isDigit c || c = '.') cs → Leaves isDigit cs :=
    fun h => h.mono fun c hc => by simp [hc]
  cases h with
  | absent =>
    cases h' with
    | absent => exact ⟨rfl, heq⟩
    | present hdigits => exact absurd (hr '.' (by rw [show r = _ from heq]; rfl)) (by decide)
  | present hdigits =>
    cases h' with
    | absent =>
      have hstart : r'.head? = some '.' := by rw [← show _ = r' from heq]; rfl
      exact absurd (hr' _ hstart) (by decide)
    | present hdigits' =>
      obtain ⟨rfl, hrest⟩ := hdigits.unique hdigits' (hdigit hr) (hdigit hr') (List.cons.inj heq).2
      exact ⟨rfl, hrest⟩

theorem SpellsExponent.unique {e e' : Option (Bool × List Char)} (h : SpellsExponent cs e)
    (h' : SpellsExponent cs' e') (hr : Stops r) (hr' : Stops r') (heq : cs ++ r = cs' ++ r') :
    e = e' ∧ r = r' := by
  have hletter : ∀ {c cs}, c = 'e' ∨ c = 'E' → ¬ Stops (c :: cs) := by
    rintro c cs hc hstops
    have := hstops c rfl
    rcases hc with rfl | rfl <;> revert this <;> decide
  cases h with
  | absent =>
    cases h' with
    | absent => exact ⟨rfl, heq⟩
    | present he hsign hdigits => exact absurd (by rwa [show r = _ from heq] at hr) (hletter he)
  | present he hsign hdigits =>
    cases h' with
    | absent => exact absurd (by rwa [← show _ = r' from heq] at hr') (hletter he)
    | present he' hsign' hdigits' =>
      simp only [List.cons_append, List.append_assoc] at heq
      obtain ⟨rfl, hspelled⟩ := hsign.unique hsign' hdigits hdigits' (List.cons.inj heq).2
      obtain ⟨rfl, hrest⟩ := hdigits.unique hdigits' hr.leaves_digit hr'.leaves_digit hspelled
      exact ⟨rfl, hrest⟩

theorem Digits.ne_minus {ds : List Char} (h : Digits ds) : ds ++ r ≠ '-' :: r' := by
  intro heq
  obtain ⟨c, more, rfl, hc⟩ := h.head
  obtain rfl : c = '-' := (List.cons.inj heq).1
  exact absurd hc (by decide)

/-- The parts of a number behind its sign: each ends where the next one begins. -/
theorem unsigned_unique {ds ds' fs fs' es es' : List Char} {f f' : Option (List Char)}
    {e e' : Option (Bool × List Char)} (hds : Digits ds) (hds' : Digits ds')
    (hf : SpellsFraction fs f) (hf' : SpellsFraction fs' f') (he : SpellsExponent es e)
    (he' : SpellsExponent es' e') (hr : Stops r) (hr' : Stops r')
    (heq : ds ++ (fs ++ es) ++ r = ds' ++ (fs' ++ es') ++ r') :
    ds = ds' ∧ f = f' ∧ e = e' ∧ r = r' := by
  simp only [List.append_assoc] at heq
  -- a point or a letter ends the digits, and so do the rests, which let no number go on
  obtain ⟨hwhole, hpoint⟩ :=
    hds.unique hds' (hf.leaves (he.leaves hr)) (hf'.leaves (he'.leaves hr')) heq
  obtain ⟨hfraction, hletter⟩ := hf.unique hf' (he.leaves hr) (he'.leaves hr') hpoint
  obtain ⟨hexponent, hrest⟩ := he.unique he' hr hr' hletter
  exact ⟨hwhole, hfraction, hexponent, hrest⟩

theorem SpellsNumeral.unique {n n' : Numeral} (h : SpellsNumeral cs n) (h' : SpellsNumeral cs' n')
    (hr : Stops r) (hr' : Stops r') (heq : cs ++ r = cs' ++ r') : n = n' ∧ r = r' := by
  cases h with
  | positive hwhole hfraction hexponent =>
    cases h' with
    | positive hwhole' hfraction' hexponent' =>
      obtain ⟨rfl, rfl, rfl, hrest⟩ :=
        unsigned_unique hwhole.1 hwhole'.1 hfraction hfraction' hexponent hexponent' hr hr' heq
      exact ⟨rfl, hrest⟩
    | negative hwhole' hfraction' hexponent' =>
      rw [List.append_assoc] at heq
      exact absurd heq hwhole.1.ne_minus
  | negative hwhole hfraction hexponent =>
    cases h' with
    | positive hwhole' hfraction' hexponent' =>
      rw [List.append_assoc (_ : List Char)] at heq
      exact absurd heq.symm hwhole'.1.ne_minus
    | negative hwhole' hfraction' hexponent' =>
      obtain ⟨rfl, rfl, rfl, hrest⟩ :=
        unsigned_unique hwhole.1 hwhole'.1 hfraction hfraction' hexponent hexponent' hr hr'
          (List.cons.inj heq).2
      exact ⟨rfl, hrest⟩

end

/-! ## Strings -/

section

variable {cs cs' r r' : List Char}

theorem SpellsPiece.unique {piece piece' : Piece} (h : SpellsPiece cs piece)
    (h' : SpellsPiece cs' piece') (heq : cs ++ r = cs' ++ r') : piece = piece' ∧ r = r' := by
  cases h with
  | raw hquote hescape hcontrol =>
    cases h' with
    | raw hquote' hescape' hcontrol' =>
      obtain ⟨rfl, hrest⟩ := List.cons.inj heq
      exact ⟨rfl, hrest⟩
    | escape hmeaning => exact absurd (List.cons.inj heq).1 hescape
    | unit ha hb hc hd => exact absurd (List.cons.inj heq).1 hescape
  | escape hmeaning =>
    cases h' with
    | raw hquote' hescape' hcontrol' => exact absurd (List.cons.inj heq).1.symm hescape'
    | escape hmeaning' =>
      obtain ⟨rfl, hrest⟩ := List.cons.inj (List.cons.inj heq).2
      rw [hmeaning] at hmeaning'
      obtain rfl := Option.some.inj hmeaning'
      exact ⟨rfl, hrest⟩
    | unit ha hb hc hd =>
      -- no escape of one character is written with the letter that announces a code unit
      obtain ⟨rfl, -⟩ := List.cons.inj (List.cons.inj heq).2
      cases hmeaning
  | unit ha hb hc hd =>
    cases h' with
    | raw hquote' hescape' hcontrol' => exact absurd (List.cons.inj heq).1.symm hescape'
    | escape hmeaning' =>
      obtain ⟨rfl, -⟩ := List.cons.inj (List.cons.inj heq).2
      cases hmeaning'
    | unit ha' hb' hc' hd' =>
      simp only [List.cons_append, List.nil_append, List.cons.injEq, true_and] at heq
      obtain ⟨rfl, rfl, rfl, rfl, hrest⟩ := heq
      rw [ha, Option.some.injEq] at ha'
      rw [hb, Option.some.injEq] at hb'
      rw [hc, Option.some.injEq] at hc'
      rw [hd, Option.some.injEq] at hd'
      subst ha' hb' hc' hd'
      exact ⟨rfl, hrest⟩

/-- No piece of a string looks like its end. -/
theorem SpellsPiece.ne_quote {piece : Piece} (h : SpellsPiece cs piece) : cs ++ r ≠ '"' :: r' := by
  intro heq
  cases h with
  | raw hquote hescape hcontrol => exact absurd (List.cons.inj heq).1 hquote
  | escape hmeaning => exact absurd (List.cons.inj heq).1 (by decide)
  | unit ha hb hc hd => exact absurd (List.cons.inj heq).1 (by decide)

/-- A string ends at its first quote that is not escaped. -/
theorem SpellsPieces.unique {pieces pieces' : List Piece} (h : SpellsPieces cs pieces)
    (h' : SpellsPieces cs' pieces') (heq : cs ++ '"' :: r = cs' ++ '"' :: r') :
    pieces = pieces' ∧ r = r' := by
  induction h generalizing cs' pieces' with
  | nil =>
    cases h' with
    | nil => exact ⟨rfl, (List.cons.inj heq).2⟩
    | cons hpiece hpieces =>
      rw [List.append_assoc] at heq
      exact absurd heq.symm hpiece.ne_quote
  | cons hpiece hpieces ih =>
    cases h' with
    | nil =>
      rw [List.append_assoc] at heq
      exact absurd heq hpiece.ne_quote
    | cons hpiece' hpieces' =>
      rw [List.append_assoc, List.append_assoc] at heq
      obtain ⟨rfl, hrest⟩ := hpiece.unique hpiece' heq
      obtain ⟨rfl, hrest⟩ := ih hpieces' hrest
      exact ⟨rfl, hrest⟩

theorem SpellsName.unique {pieces pieces' : List Piece} (h : SpellsName cs pieces)
    (h' : SpellsName cs' pieces') (hr : Leaves isBlank r) (hr' : Leaves isBlank r')
    (heq : cs ++ r = cs' ++ r') : pieces = pieces' ∧ r = r' := by
  obtain ⟨hbefore, hpieces, hafter, hspace⟩ := h
  obtain ⟨hbefore', hpieces', hafter', hspace'⟩ := h'
  simp only [List.append_assoc, List.cons_append] at heq
  have hquoted := hbefore.unique hbefore' (leaves_cons rfl) (leaves_cons rfl) heq
  obtain ⟨rfl, hclosed⟩ := hpieces.unique hpieces' (List.cons.inj hquoted).2
  have hcolon := hafter.unique hafter' (leaves_cons rfl) (leaves_cons rfl) hclosed
  exact ⟨rfl, hspace.unique hspace' hr hr' (List.cons.inj hcolon).2⟩

end

/-! ## Values -/

/-- The kinds of values that begin with different characters. -/
inductive Kind where
  | null
  | yes
  | no
  | number
  | text
  | array
  | object
  deriving DecidableEq

def Tree.kind : Tree → Kind
  | .null => .null
  | .flag true => .yes
  | .flag false => .no
  | .number _ => .number
  | .text _ => .text
  | .array _ => .array
  | .object _ => .object

/-- The kind of a value by its first character. -/
def kindOf? (c : Char) : Option Kind :=
  match c with
  | 'n' => some .null
  | 't' => some .yes
  | 'f' => some .no
  | '"' => some .text
  | '[' => some .array
  | '\x7b' => some .object
  | c => if beginsNumber c then some .number else none

section

variable {cs cs' r r' : List Char}

theorem kindOf?_of_beginsNumber {c : Char} (h : beginsNumber c) : kindOf? c = some .number := by
  unfold kindOf?
  split
  case h_7 => exact if_pos h
  all_goals exact absurd h (by decide)

/-- A value shows its kind at once. -/
theorem Spells.head {t : Tree} (h : Spells cs t) :
    ∃ c rest, cs = c :: rest ∧ kindOf? c = some t.kind := by
  cases h with
  | number hnumeral =>
    cases hnumeral with
    | positive hwhole hfraction hexponent =>
      obtain ⟨c, rest, rfl, hc⟩ := hwhole.1.head
      exact ⟨c, _, rfl, kindOf?_of_beginsNumber (by simp [beginsNumber, hc])⟩
    | negative hwhole hfraction hexponent => exact ⟨'-', _, rfl, rfl⟩
  | _ => exact ⟨_, _, rfl, rfl⟩

theorem not_isBlank_of_kindOf? {c : Char} {kind : Kind} (h : kindOf? c = some kind) :
    isBlank c = false := by
  rw [← Bool.not_eq_true]
  intro hblank
  simp only [isBlank, Bool.or_eq_true, decide_eq_true_eq] at hblank
  rcases hblank with ((rfl | rfl) | rfl) | rfl <;> cases h

theorem Spells.leaves_blank {t : Tree} (h : Spells cs t) : Leaves isBlank (cs ++ r) := by
  obtain ⟨c, rest, rfl, hc⟩ := h.head
  exact leaves_cons (not_isBlank_of_kindOf? hc)

/-- Two values at the front of one text are of one kind. -/
theorem Spells.kind_eq {t t' : Tree} (h : Spells cs t) (h' : Spells cs' t')
    (heq : cs ++ r = cs' ++ r') : t.kind = t'.kind := by
  obtain ⟨c, rest, rfl, hc⟩ := h.head
  obtain ⟨c', rest', rfl, hc'⟩ := h'.head
  obtain rfl : c = c' := (List.cons.inj heq).1
  exact Option.some.inj (hc.symm.trans hc')

/-- A character that stands behind a value: a comma or the end of a container. -/
def Closes (c : Char) : Prop :=
  c = ',' ∨ c = ']' ∨ c = '\x7d'

theorem Closes.comma : Closes ',' := .inl rfl

theorem Closes.bracket : Closes ']' := .inr (.inl rfl)

theorem Closes.brace : Closes '\x7d' := .inr (.inr rfl)

theorem Closes.leaves_blank {c : Char} (h : Closes c) : Leaves isBlank (c :: r) := by
  rcases h with rfl | rfl | rfl <;> exact leaves_cons rfl

/-- Blanks and what follows a value let no number go on. -/
theorem Blank.stops {blank : List Char} (h : Blank blank) (hr : Stops r) : Stops (blank ++ r) := by
  cases blank with
  | nil => exact hr
  | cons c rest =>
    have hc : isBlank c := h c List.mem_cons_self
    simp only [isBlank, Bool.or_eq_true, decide_eq_true_eq] at hc
    rcases hc with ((rfl | rfl) | rfl) | rfl <;> exact leaves_cons rfl

theorem Closes.stops {c : Char} (h : Closes c) : Stops (c :: r) := by
  rcases h with rfl | rfl | rfl <;> exact leaves_cons rfl

/-- A value at the front of a text is unique. -/
def OnlyValue (cs : List Char) (t : Tree) : Prop :=
  ∀ (cs' r r' : List Char) (t' : Tree), Spells cs' t' → Stops r → Stops r' →
    cs ++ r = cs' ++ r' → t = t' ∧ r = r'

/-- After a value that is unique, the blanks behind it end where they must. -/
theorem OnlyValue.closed {after after' : List Char} {c c' : Char} {t t' : Tree}
    (h : OnlyValue cs t) (h' : Spells cs' t') (hafter : Blank after) (hafter' : Blank after')
    (hc : Closes c) (hc' : Closes c')
    (heq : cs ++ (after ++ c :: r) = cs' ++ (after' ++ c' :: r')) :
    t = t' ∧ c :: r = c' :: r' := by
  obtain ⟨rfl, hrest⟩ := h _ _ _ _ h' (hafter.stops hc.stops) (hafter'.stops hc'.stops) heq
  exact ⟨rfl, hafter.unique hafter' hc.leaves_blank hc'.leaves_blank hrest⟩

/-- What stands in a container that is not empty does not look like its end. -/
theorem SpellsItems.ne_closed {items : List Tree} {blank : List Char} (h : SpellsItems cs items)
    (hblank : Blank blank) : blank ++ ']' :: r ≠ cs ++ r' := by
  have hfirst : ∀ {before value rest : List Char} {t : Tree}, Blank before → Spells value t →
      blank ++ ']' :: r ≠ before ++ (value ++ rest) := by
    intro before value rest t hbefore hvalue heq
    have hends := hblank.unique hbefore (leaves_cons rfl) hvalue.leaves_blank heq
    obtain ⟨c, more, rfl, hc⟩ := hvalue.head
    obtain rfl : ']' = c := (List.cons.inj hends).1
    cases hc
  cases h with
  | last hbefore hitem hafter =>
    simp only [List.append_assoc]
    exact hfirst hbefore hitem
  | more hbefore hitem hafter hothers =>
    simp only [List.append_assoc]
    exact hfirst hbefore hitem

theorem SpellsMembers.ne_closed {members : List (List Piece × Tree)} {blank : List Char}
    (h : SpellsMembers cs members) (hblank : Blank blank) : blank ++ '\x7d' :: r ≠ cs ++ r' := by
  have hfirst : ∀ {name rest : List Char} {pieces : List Piece}, SpellsName name pieces →
      blank ++ '\x7d' :: r ≠ name ++ rest := by
    intro name rest pieces hname heq
    obtain ⟨hbefore, hpieces, hafter, hspace⟩ := hname
    rw [List.append_assoc] at heq
    have hends := hblank.unique hbefore (leaves_cons rfl) (leaves_cons rfl) heq
    exact absurd (List.cons.inj hends).1 (by decide)
  cases h with
  | last hname hvalue hafter =>
    rw [List.append_assoc]
    exact hfirst hname
  | more hname hvalue hafter hothers =>
    rw [List.append_assoc]
    exact hfirst hname

/-- What stands between two delimiters. -/
theorem between_delimiters {a b : Char} (h : a :: (cs ++ [b]) ++ r = a :: (cs' ++ [b]) ++ r') :
    cs ++ b :: r = cs' ++ b :: r' := by
  simpa using h

end

mutual

/-- **No text begins with two values.** -/
theorem Spells.unique {cs : List Char} {t : Tree} (h : Spells cs t) : OnlyValue cs t := by
  intro cs' r r' t' h' hr hr' heq
  have hkind := h.kind_eq h' heq
  -- values of one kind follow the same rule, but that a container may be empty in one of the texts
  match h with
  | .null =>
    cases h' with
    | null => exact ⟨rfl, by simpa using heq⟩
    | _ => cases hkind
  | .yes =>
    cases h' with
    | yes => exact ⟨rfl, by simpa using heq⟩
    | _ => cases hkind
  | .no =>
    cases h' with
    | no => exact ⟨rfl, by simpa using heq⟩
    | _ => cases hkind
  | .number hn =>
    cases h' with
    | number hn' =>
      obtain ⟨rfl, hrest⟩ := hn.unique hn' hr hr' heq
      exact ⟨rfl, hrest⟩
    | _ => cases hkind
  | .text hpieces =>
    cases h' with
    | text hpieces' =>
      obtain ⟨rfl, hrest⟩ := hpieces.unique hpieces' (between_delimiters heq)
      exact ⟨rfl, hrest⟩
    | _ => cases hkind
  | .emptyArray hblank =>
    cases h' with
    | emptyArray hblank' =>
      have hrest := hblank.unique hblank' (leaves_cons rfl) (leaves_cons rfl)
        (between_delimiters heq)
      exact ⟨rfl, (List.cons.inj hrest).2⟩
    | array hitems' =>
      exact absurd (between_delimiters heq) (hitems'.ne_closed hblank)
    | _ => cases hkind
  | .array hitems =>
    cases h' with
    | emptyArray hblank' =>
      exact absurd (between_delimiters heq).symm (hitems.ne_closed hblank')
    | array hitems' =>
      obtain ⟨rfl, hrest⟩ := hitems.unique hitems' (between_delimiters heq)
      exact ⟨rfl, hrest⟩
    | _ => cases hkind
  | .emptyObject hblank =>
    cases h' with
    | emptyObject hblank' =>
      have hrest := hblank.unique hblank' (leaves_cons rfl) (leaves_cons rfl)
        (between_delimiters heq)
      exact ⟨rfl, (List.cons.inj hrest).2⟩
    | object hmembers' =>
      exact absurd (between_delimiters heq) (hmembers'.ne_closed hblank)
    | _ => cases hkind
  | .object hmembers =>
    cases h' with
    | emptyObject hblank' =>
      exact absurd (between_delimiters heq).symm (hmembers.ne_closed hblank')
    | object hmembers' =>
      obtain ⟨rfl, hrest⟩ := hmembers.unique hmembers' (between_delimiters heq)
      exact ⟨rfl, hrest⟩
    | _ => cases hkind

theorem SpellsItems.unique {cs cs' r r' : List Char} {items items' : List Tree}
    (h : SpellsItems cs items) (h' : SpellsItems cs' items')
    (heq : cs ++ ']' :: r = cs' ++ ']' :: r') : items = items' ∧ r = r' := by
  match h with
  | .last hbefore hitem hafter =>
    cases h' with
    | last hbefore' hitem' hafter' =>
      simp only [List.append_assoc] at heq
      have hvalue := hbefore.unique hbefore' hitem.leaves_blank hitem'.leaves_blank heq
      obtain ⟨rfl, hrest⟩ := hitem.unique.closed hitem' hafter hafter' .bracket .bracket hvalue
      exact ⟨rfl, (List.cons.inj hrest).2⟩
    | more hbefore' hitem' hafter' hothers' =>
      simp only [List.append_assoc, List.cons_append] at heq
      have hvalue := hbefore.unique hbefore' hitem.leaves_blank hitem'.leaves_blank heq
      -- after the same item one text ends and the other has a comma
      obtain ⟨-, hrest⟩ := hitem.unique.closed hitem' hafter hafter' .bracket .comma hvalue
      exact absurd (List.cons.inj hrest).1 (by decide)
  | .more hbefore hitem hafter hothers =>
    cases h' with
    | last hbefore' hitem' hafter' =>
      simp only [List.append_assoc, List.cons_append] at heq
      have hvalue := hbefore.unique hbefore' hitem.leaves_blank hitem'.leaves_blank heq
      obtain ⟨-, hrest⟩ := hitem.unique.closed hitem' hafter hafter' .comma .bracket hvalue
      exact absurd (List.cons.inj hrest).1 (by decide)
    | more hbefore' hitem' hafter' hothers' =>
      simp only [List.append_assoc, List.cons_append] at heq
      have hvalue := hbefore.unique hbefore' hitem.leaves_blank hitem'.leaves_blank heq
      obtain ⟨rfl, hrest⟩ := hitem.unique.closed hitem' hafter hafter' .comma .comma hvalue
      obtain ⟨rfl, hend⟩ := hothers.unique hothers' (List.cons.inj hrest).2
      exact ⟨rfl, hend⟩

theorem SpellsMembers.unique {cs cs' r r' : List Char} {members members' : List (List Piece × Tree)}
    (h : SpellsMembers cs members) (h' : SpellsMembers cs' members')
    (heq : cs ++ '\x7d' :: r = cs' ++ '\x7d' :: r') : members = members' ∧ r = r' := by
  match h with
  | .last hname hvalue hafter =>
    cases h' with
    | last hname' hvalue' hafter' =>
      simp only [List.append_assoc] at heq
      obtain ⟨rfl, hnamed⟩ := hname.unique hname' hvalue.leaves_blank hvalue'.leaves_blank heq
      obtain ⟨rfl, hrest⟩ := hvalue.unique.closed hvalue' hafter hafter' .brace .brace hnamed
      exact ⟨rfl, (List.cons.inj hrest).2⟩
    | more hname' hvalue' hafter' hothers' =>
      simp only [List.append_assoc, List.cons_append] at heq
      obtain ⟨-, hnamed⟩ := hname.unique hname' hvalue.leaves_blank hvalue'.leaves_blank heq
      obtain ⟨-, hrest⟩ := hvalue.unique.closed hvalue' hafter hafter' .brace .comma hnamed
      exact absurd (List.cons.inj hrest).1 (by decide)
  | .more hname hvalue hafter hothers =>
    cases h' with
    | last hname' hvalue' hafter' =>
      simp only [List.append_assoc, List.cons_append] at heq
      obtain ⟨-, hnamed⟩ := hname.unique hname' hvalue.leaves_blank hvalue'.leaves_blank heq
      obtain ⟨-, hrest⟩ := hvalue.unique.closed hvalue' hafter hafter' .comma .brace hnamed
      exact absurd (List.cons.inj hrest).1 (by decide)
    | more hname' hvalue' hafter' hothers' =>
      simp only [List.append_assoc, List.cons_append] at heq
      obtain ⟨rfl, hnamed⟩ := hname.unique hname' hvalue.leaves_blank hvalue'.leaves_blank heq
      obtain ⟨rfl, hrest⟩ := hvalue.unique.closed hvalue' hafter hafter' .comma .comma hnamed
      obtain ⟨rfl, hend⟩ := hothers.unique hothers' (List.cons.inj hrest).2
      exact ⟨rfl, hend⟩

end

/-! ## Documents -/

/-- **No text spells two documents.** -/
theorem Document.unique {s : String} {t t' : Tree} (h : Document s t) (h' : Document s t') :
    t = t' := by
  obtain ⟨before, cs, after, hs, hbefore, hvalue, hafter⟩ := h
  obtain ⟨before', cs', after', hs', hbefore', hvalue', hafter'⟩ := h'
  have hend : ∀ {blank : List Char}, Blank blank → Stops blank := by
    intro blank hblank
    have hstops := hblank.stops (r := []) fun _ hc => (nomatch hc)
    rwa [List.append_nil] at hstops
  have heq := hbefore.unique hbefore' hvalue.leaves_blank hvalue'.leaves_blank (hs.symm.trans hs')
  exact (hvalue.unique cs' after after' t' hvalue' (hend hafter) (hend hafter') heq).1

end Json
end FailOpen
