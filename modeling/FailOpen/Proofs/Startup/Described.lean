import FailOpen.Proofs.Startup.DocumentValues
import Mathlib.Data.List.Induction

/-!
# What a document describes

A document describes options if it is an object with the settings as members, or an array with
them in their order.  An object may have other members too, with any values, as long as the names
of all members decode and no setting is given twice.  Settings that are not given have their
defaults; only the two that have none must be there.

`Describes` says so of a document, with no order in which it is read.  Readers take the settings one
after the other: `foldlM_takeMember?_iff` and `foldlM_putPair?_iff` relate what has been found after
each step to what is given so far, and `Partial.Holds.options_eq_ok_iff` relates what has been found
at the end to the options.
-/

namespace FailOpen
namespace Startup

open Json (Tree Piece)

/-! ## What a document describes -/

/-- The values that a document gives for the settings. -/
abbrev Given := Setting → Option Tree

/-- A setting that may be absent, and then has a default. -/
def Assigned {α : Type} (meaning : Tree → Option α) (given : Option Tree)
    (absent value : α) : Prop :=
  match given with
  | none => value = absent
  | some tree => meaning tree = some value

/-- Options with nothing set but what is required. -/
def Options.bare (url apiKey : String) : Options where
  url
  apiKey

/-- The options that the given values make: each value is of the kind of its setting, and nothing
but the url and the key is required. -/
structure Given.Makes (given : Given) (options : Options) : Prop where
  url : (given .url).bind Tree.text? = some options.url
  apiKey : (given .apiKey).bind Tree.text? = some options.apiKey
  backendPort : Assigned Tree.optionalWord? (given .backendPort)
    (Options.bare options.url options.apiKey).backendPort options.backendPort
  collectorPort : Assigned Tree.word? (given .collectorPort)
    (Options.bare options.url options.apiKey).collectorPort options.collectorPort
  logLevel : Assigned Tree.text? (given .logLevel)
    (Options.bare options.url options.apiKey).logLevel options.logLevel
  encryptionKey : Assigned Tree.text? (given .encryptionKey)
    (Options.bare options.url options.apiKey).encryptionKey options.encryptionKey

/-- Whether a member has the name of a setting. -/
def isNamed (setting : Setting) (member : List Piece × Tree) : Bool :=
  Piece.text? member.1 = some setting.name

/-- The values that the members of an object give. -/
def givenBy (members : List (List Piece × Tree)) : Given :=
  fun setting => (members.find? (isNamed setting)).map Prod.snd

/-- The values that the items of an array give. -/
def givenAt (items : List Tree) : Given :=
  fun setting => items[setting.index]?

/-- A document that describes options. -/
inductive Describes : Tree → Options → Prop
  | object {members : List (List Piece × Tree)} {options : Options}
      (hnames : ∀ member ∈ members, (Piece.text? member.1).isSome)
      (honce : ∀ setting, members.countP (isNamed setting) ≤ 1)
      (h : (givenBy members).Makes options) : Describes (.object members) options
  | array {items : List Tree} {options : Options} (hleast : 2 ≤ items.length)
      (hmost : items.length ≤ 6) (h : (givenAt items).Makes options) :
      Describes (.array items) options

/-- What is found in the first part of a list is found in all of it. -/
theorem find?_part {κ : Type} (pairs others : List (κ × Tree)) (p : κ × Tree → Bool) :
    (pairs.find? p).map Prod.snd = none ∨
      (pairs.find? p).map Prod.snd = ((pairs ++ others).find? p).map Prod.snd := by
  rw [List.find?_append]
  cases pairs.find? p with
  | none => exact .inl rfl
  | some pair => exact .inr rfl

/-! ## Settings that have been found -/

/-- The settings that have been found are those that are given, by values of their kinds. -/
structure Partial.Holds (found : Partial) (given : Given) : Prop where
  url : (given .url).mapM Tree.text? = some found.url
  apiKey : (given .apiKey).mapM Tree.text? = some found.apiKey
  backendPort : (given .backendPort).mapM Tree.optionalWord? = some found.backendPort
  collectorPort : (given .collectorPort).mapM Tree.word? = some found.collectorPort
  logLevel : (given .logLevel).mapM Tree.text? = some found.logLevel
  encryptionKey : (given .encryptionKey).mapM Tree.text? = some found.encryptionKey

section

variable {α : Type} {meaning : Tree → Option α} {found found' : Partial} {given given' : Given}
  {setting : Setting} {tree : Tree}

theorem mapM_some_eq_some_iff {value : Option α} :
    (some tree).mapM meaning = some value ↔ ∃ a, meaning tree = some a ∧ some a = value := by
  rw [Option.mapM_some]
  exact Option.map_eq_some_iff

theorem mapM_isSome {given : Option Tree} {value : Option α} (h : given.mapM meaning = some value) :
    value.isSome = given.isSome := by
  cases given with
  | none =>
    obtain rfl := Option.some.inj h
    rfl
  | some tree =>
    obtain ⟨a, -, rfl⟩ := mapM_some_eq_some_iff.mp h
    rfl

/-- What is given makes sense in part if it makes sense in whole. -/
theorem exists_mapM {given given' : Option Tree} {value : Option α}
    (h : given'.mapM meaning = some value) (hpart : given = none ∨ given = given') :
    ∃ value, given.mapM meaning = some value := by
  rcases hpart with rfl | rfl
  · exact ⟨none, rfl⟩
  · exact ⟨value, h⟩

theorem Partial.holds_nothing : Partial.Holds {} fun _ => none :=
  ⟨rfl, rfl, rfl, rfl, rfl, rfl⟩

theorem Partial.Holds.unique (h : found.Holds given) (h' : found'.Holds given) :
    found = found' := by
  obtain ⟨url, apiKey, backendPort, collectorPort, logLevel, encryptionKey⟩ := found
  obtain ⟨h1, h2, h3, h4, h5, h6⟩ := h
  have h1' := h1.symm.trans h'.url
  have h2' := h2.symm.trans h'.apiKey
  have h3' := h3.symm.trans h'.backendPort
  have h4' := h4.symm.trans h'.collectorPort
  have h5' := h5.symm.trans h'.logLevel
  have h6' := h6.symm.trans h'.encryptionKey
  simp only [Option.some.injEq] at h1' h2' h3' h4' h5' h6'
  rw [h1', h2', h3', h4', h5', h6']

theorem Partial.Holds.has_eq (h : found.Holds given) (setting : Setting) :
    found.has setting = (given setting).isSome := by
  cases setting with
  | url => exact mapM_isSome h.url
  | apiKey => exact mapM_isSome h.apiKey
  | backendPort => exact mapM_isSome h.backendPort
  | collectorPort => exact mapM_isSome h.collectorPort
  | logLevel => exact mapM_isSome h.logLevel
  | encryptionKey => exact mapM_isSome h.encryptionKey

/-- If all values make sense, so do some of them. -/
theorem Partial.Holds.restrict (h : found'.Holds given')
    (hpart : ∀ setting, given setting = none ∨ given setting = given' setting) :
    ∃ found : Partial, found.Holds given := by
  obtain ⟨url, hurl⟩ := exists_mapM h.url (hpart _)
  obtain ⟨apiKey, hapiKey⟩ := exists_mapM h.apiKey (hpart _)
  obtain ⟨backendPort, hbackendPort⟩ := exists_mapM h.backendPort (hpart _)
  obtain ⟨collectorPort, hcollectorPort⟩ := exists_mapM h.collectorPort (hpart _)
  obtain ⟨logLevel, hlogLevel⟩ := exists_mapM h.logLevel (hpart _)
  obtain ⟨encryptionKey, hencryptionKey⟩ := exists_mapM h.encryptionKey (hpart _)
  exact ⟨{ url, apiKey, backendPort, collectorPort, logLevel, encryptionKey }, hurl, hapiKey,
    hbackendPort, hcollectorPort, hlogLevel, hencryptionKey⟩

/-- The given values and one more. -/
def Given.set (given : Given) (setting : Setting) (tree : Tree) : Given :=
  fun other => if other = setting then some tree else given other

theorem Given.exists_meaning {value : Option α}
    (h : (given.set setting tree setting).mapM meaning = some value) :
    ∃ a, meaning tree = some a := by
  rw [Given.set, if_pos rfl] at h
  obtain ⟨a, ha, -⟩ := mapM_some_eq_some_iff.mp h
  exact ⟨a, ha⟩

/-- A value that makes sense can be put. -/
theorem Partial.exists_put? (h : found'.Holds (given.set setting tree)) :
    ∃ f, found.put? setting tree = some f := by
  cases setting with
  | url => exact (Given.exists_meaning h.url).imp' _ fun _ => congrArg (Option.map _)
  | apiKey => exact (Given.exists_meaning h.apiKey).imp' _ fun _ => congrArg (Option.map _)
  | backendPort =>
    exact (Given.exists_meaning h.backendPort).imp' _ fun _ => congrArg (Option.map _)
  | collectorPort =>
    exact (Given.exists_meaning h.collectorPort).imp' _ fun _ => congrArg (Option.map _)
  | logLevel => exact (Given.exists_meaning h.logLevel).imp' _ fun _ => congrArg (Option.map _)
  | encryptionKey =>
    exact (Given.exists_meaning h.encryptionKey).imp' _ fun _ => congrArg (Option.map _)

theorem Partial.Holds.put (h : found.Holds given) (hput : found.put? setting tree = some found') :
    found'.Holds (given.set setting tree) := by
  obtain ⟨h1, h2, h3, h4, h5, h6⟩ := h
  cases setting <;>
    · obtain ⟨value, hvalue, rfl⟩ := Option.map_eq_some_iff.mp hput
      constructor <;> simp_all [Given.set]

/-- Putting a value adds it to what is held. -/
theorem Partial.Holds.put?_iff (h : found.Holds given) :
    found.put? setting tree = some found' ↔ found'.Holds (given.set setting tree) := by
  constructor
  · exact h.put
  · intro h'
    obtain ⟨f, hf⟩ := Partial.exists_put? h'
    rw [hf, (h.put hf).unique h']

/-! ## Members of an object -/

theorem Setting.ofName?_eq_some_iff {name : String} :
    Setting.ofName? name = some setting ↔ name = setting.name := by
  constructor
  · intro h
    have hnamed := List.find?_some h
    exact (of_decide_eq_true hnamed).symm
  · rintro rfl
    cases setting <;> decide

theorem isNamed_eq {member : List Piece × Tree} {name : String}
    (hname : Piece.text? member.1 = some name) :
    isNamed setting member = decide (Setting.ofName? name = some setting) := by
  simp [isNamed, hname, Setting.ofName?_eq_some_iff]

/-- Takes one member of an object.  A setting must be new; the value of any other member does not
matter. -/
def Partial.takeMember? (found : Partial) (member : List Piece × Tree) : Option Partial :=
  (Piece.text? member.1).bind fun name =>
    match Setting.ofName? name with
    | none => some found
    | some setting => if found.has setting then none else found.put? setting member.2

theorem givenBy_concat (members : List (List Piece × Tree)) (member : List Piece × Tree)
    (setting : Setting) :
    givenBy (members ++ [member]) setting =
      (givenBy members setting).or (if isNamed setting member then some member.2 else none) := by
  rw [givenBy, givenBy, List.find?_append, List.find?_singleton, Option.map_or]
  split <;> rfl

theorem givenBy_eq_none_iff {members : List (List Piece × Tree)} :
    givenBy members setting = none ↔ members.countP (isNamed setting) = 0 := by
  rw [givenBy, Option.map_eq_none_iff, List.find?_eq_none, List.countP_eq_zero]

/-- A member that is no setting gives nothing. -/
theorem givenBy_concat_other {members : List (List Piece × Tree)} {member : List Piece × Tree}
    (h : ∀ setting, isNamed setting member = false) :
    givenBy (members ++ [member]) = givenBy members := by
  funext setting
  rw [givenBy_concat, h, if_neg Bool.false_ne_true, Option.or_none]

/-- A member that is a setting gives its value, if there was none before. -/
theorem givenBy_concat_setting {members : List (List Piece × Tree)} {member : List Piece × Tree}
    (hnew : givenBy members setting = none)
    (h : ∀ other, isNamed other member = decide (other = setting)) :
    givenBy (members ++ [member]) = (givenBy members).set setting member.2 := by
  funext other
  rw [givenBy_concat, h, Given.set]
  by_cases hother : other = setting
  · subst hother
    simp [hnew]
  · simp [hother]

section

variable {members : List (List Piece × Tree)} {member : List Piece × Tree}

/-- Taking a member succeeds if its name decodes and it is either no setting, or a new one with a
value of its kind. -/
theorem Partial.Holds.takeMember?_iff (h : found.Holds (givenBy members)) :
    found.takeMember? member = some found' ↔
      (Piece.text? member.1).isSome ∧
        (∀ setting, isNamed setting member → givenBy members setting = none) ∧
          found'.Holds (givenBy (members ++ [member])) := by
  cases hname : Piece.text? member.1 with
  | none => simp [Partial.takeMember?, hname]
  | some name =>
    rw [Partial.takeMember?, hname, Option.bind_some]
    cases hsetting : Setting.ofName? name with
    | none =>
      have hother : ∀ setting, isNamed setting member = false := by simp [isNamed_eq hname, hsetting]
      rw [givenBy_concat_other hother]
      constructor
      · intro hfound
        obtain rfl := Option.some.inj hfound
        exact ⟨rfl, fun setting hnamed => absurd hnamed (by simp [hother]), h⟩
      · rintro ⟨-, -, h'⟩
        exact congrArg some (h.unique h')
    | some setting =>
      have hnamed : ∀ other, isNamed other member = decide (other = setting) := by
        simp [isNamed_eq hname, hsetting, eq_comm]
      cases hgiven : givenBy members setting with
      | some tree =>
        have hhas : found.has setting := by rw [h.has_eq, hgiven]; rfl
        constructor
        · intro hfound
          simp only [hhas, if_true] at hfound
          cases hfound
        · rintro ⟨-, hnew, -⟩
          rw [hnew setting (by simp [hnamed])] at hgiven
          cases hgiven
      | none =>
        have hhas : found.has setting = false := by rw [h.has_eq, hgiven]; rfl
        simp only [hhas, Bool.false_eq_true, if_false]
        rw [givenBy_concat_setting hgiven hnamed, h.put?_iff]
        constructor
        · intro h'
          refine ⟨rfl, fun other hother => ?_, h'⟩
          rw [hnamed] at hother
          exact of_decide_eq_true hother ▸ hgiven
        · rintro ⟨-, -, h'⟩
          exact h'

/-- Taking all members of an object succeeds if their names decode, no setting comes twice and each
has a value of its kind; and that is what is found then. -/
theorem foldlM_takeMember?_iff :
    members.foldlM Partial.takeMember? {} = some found ↔
      (∀ member ∈ members, (Piece.text? member.1).isSome) ∧
        (∀ setting, members.countP (isNamed setting) ≤ 1) ∧ found.Holds (givenBy members) := by
  induction members using List.reverseRecOn generalizing found with
  | nil =>
    constructor
    · intro hfound
      obtain rfl := Option.some.inj hfound
      exact ⟨by simp, by simp, Partial.holds_nothing⟩
    · rintro ⟨-, -, h⟩
      exact congrArg some (Partial.holds_nothing.unique h)
  | append_singleton members member ih =>
    rw [List.foldlM_append]
    simp only [List.foldlM_cons, List.foldlM_nil, bind_pure, Option.bind_eq_bind,
      Option.bind_eq_some_iff]
    constructor
    · rintro ⟨found', hbefore, hmember⟩
      obtain ⟨hnames, honce, hholds⟩ := ih.mp hbefore
      obtain ⟨hname, hnew, hfound⟩ := hholds.takeMember?_iff.mp hmember
      refine ⟨fun other hother => ?_, fun setting => ?_, hfound⟩
      · rcases List.mem_append.mp hother with hmem | hmem
        · exact hnames other hmem
        · exact List.mem_singleton.mp hmem ▸ hname
      · rw [List.countP_append, List.countP_singleton]
        split
        · rename_i hnamed
          have hnone := givenBy_eq_none_iff.mp (hnew setting hnamed)
          omega
        · exact honce setting
    · rintro ⟨hnames, honce, hfound⟩
      have hcount : ∀ setting, members.countP (isNamed setting) +
          (if isNamed setting member then 1 else 0) ≤ 1 := by
        intro setting
        rw [← List.countP_singleton, ← List.countP_append]
        exact honce setting
      -- what the last member gives was not given before, so the others hold by themselves
      have hpart : ∀ setting, givenBy members setting = none ∨
          givenBy members setting = givenBy (members ++ [member]) setting :=
        fun setting => find?_part members [member] (isNamed setting)
      obtain ⟨found', hholds⟩ := hfound.restrict hpart
      refine ⟨found', ih.mpr ⟨fun other hother => hnames other (by simp [hother]),
        fun setting => Nat.le_of_add_right_le (hcount setting), hholds⟩,
        hholds.takeMember?_iff.mpr ⟨hnames member (by simp), fun setting hnamed => ?_, hfound⟩⟩
      have hone := hcount setting
      rw [if_pos hnamed] at hone
      exact givenBy_eq_none_iff.mpr (by omega)

end

/-! ## Elements of an array -/

/-- Puts a value that is paired with its setting. -/
def Partial.putPair? (found : Partial) (pair : Setting × Tree) : Option Partial :=
  found.put? pair.1 pair.2

/-- The values that pairs give. -/
def givenIn (pairs : List (Setting × Tree)) : Given :=
  fun setting => (pairs.find? (·.1 = setting)).map Prod.snd

theorem givenIn_all_zip {items : List Tree} (h : items.length ≤ 6) :
    givenIn (Setting.all.zip items) = givenAt items := by
  funext setting
  cases setting <;>
    rcases items with _ | ⟨_, _ | ⟨_, _ | ⟨_, _ | ⟨_, _ | ⟨_, _ | ⟨_, items⟩⟩⟩⟩⟩⟩ <;> rfl

theorem sublist_zip : (settings : List Setting) → (items : List Tree) →
    ((settings.zip items).map Prod.fst).Sublist settings
  | [], _ => .slnil
  | _ :: _, [] => List.nil_sublist _
  | setting :: settings, _ :: items => (sublist_zip settings items).cons_cons setting

/-- No setting is given twice by an array. -/
theorem nodup_all_zip (items : List Tree) : ((Setting.all.zip items).map Prod.fst).Nodup := by
  have hall : Setting.all.Nodup := by decide
  exact hall.sublist (sublist_zip Setting.all items)

theorem givenIn_concat {pairs : List (Setting × Tree)} (h : setting ∉ pairs.map Prod.fst) :
    givenIn (pairs ++ [(setting, tree)]) = (givenIn pairs).set setting tree := by
  have hnone : pairs.find? (·.1 = setting) = none := by
    rw [List.find?_eq_none]
    rintro pair hpair hsetting
    exact h (List.mem_map.mpr ⟨pair, hpair, of_decide_eq_true hsetting⟩)
  funext other
  rw [givenIn, Given.set, List.find?_append, List.find?_singleton]
  by_cases hother : other = setting
  · subst hother
    simp [hnone]
  · simp [hother, Ne.symm hother, givenIn]

/-- Putting values for different settings succeeds if each is of its kind. -/
theorem foldlM_putPair?_iff {pairs : List (Setting × Tree)} (h : (pairs.map Prod.fst).Nodup) :
    pairs.foldlM Partial.putPair? {} = some found ↔
      found.Holds (givenIn pairs) := by
  induction pairs using List.reverseRecOn generalizing found with
  | nil =>
    constructor
    · intro hfound
      obtain rfl := Option.some.inj hfound
      exact Partial.holds_nothing
    · intro h
      exact congrArg some (Partial.holds_nothing.unique h)
  | append_singleton pairs pair ih =>
    obtain ⟨setting, tree⟩ := pair
    rw [List.map_append, List.nodup_append] at h
    obtain ⟨hbefore, -, hapart⟩ := h
    have hnew : setting ∉ pairs.map Prod.fst :=
      fun hmem => hapart _ hmem _ (List.mem_singleton.mpr rfl) rfl
    rw [givenIn_concat hnew, List.foldlM_append]
    simp only [List.foldlM_cons, List.foldlM_nil, bind_pure, Option.bind_eq_bind,
      Option.bind_eq_some_iff]
    constructor
    · rintro ⟨found', hfirst, hput⟩
      exact ((ih hbefore).mp hfirst).put hput
    · intro hfound
      have hpart : ∀ other, givenIn pairs other = none ∨
          givenIn pairs other = (givenIn pairs).set setting tree other := by
        intro other
        rw [← givenIn_concat hnew]
        exact find?_part pairs [(setting, tree)] (·.1 = other)
      obtain ⟨found', hholds⟩ := hfound.restrict hpart
      exact ⟨found', (ih hbefore).mpr hholds, hholds.put?_iff.mpr hfound⟩

/-! ## Options -/

theorem bind_eq_of_mapM {given : Option Tree} {value : Option α}
    (h : given.mapM meaning = some value) : given.bind meaning = value := by
  cases given with
  | none => exact Option.some.inj h
  | some tree =>
    obtain ⟨a, ha, rfl⟩ := mapM_some_eq_some_iff.mp h
    exact ha

theorem assigned_iff_of_mapM {given : Option Tree} {value : Option α} {absent a : α}
    (h : given.mapM meaning = some value) :
    Assigned meaning given absent a ↔ value.getD absent = a := by
  cases given with
  | none =>
    obtain rfl := Option.some.inj h
    exact eq_comm
  | some tree =>
    obtain ⟨a', ha, rfl⟩ := mapM_some_eq_some_iff.mp h
    rw [Assigned, ha]
    exact Option.some_inj

theorem exists_mapM_of_assigned {given : Option Tree} {absent a : α}
    (h : Assigned meaning given absent a) : ∃ value, given.mapM meaning = some value := by
  cases given with
  | none => exact ⟨none, rfl⟩
  | some tree => exact ⟨some a, mapM_some_eq_some_iff.mpr ⟨a, h, rfl⟩⟩

theorem mapM_of_bind {given : Option Tree} {a : α} (h : given.bind meaning = some a) :
    given.mapM meaning = some (some a) := by
  obtain ⟨tree, rfl, ha⟩ := Option.bind_eq_some_iff.mp h
  exact mapM_some_eq_some_iff.mpr ⟨a, ha, rfl⟩

/-- Whatever makes options can be found. -/
theorem Given.Makes.exists_holds {options : Options} (h : given.Makes options) :
    ∃ found : Partial, found.Holds given := by
  obtain ⟨backendPort, hbackendPort⟩ := exists_mapM_of_assigned h.backendPort
  obtain ⟨collectorPort, hcollectorPort⟩ := exists_mapM_of_assigned h.collectorPort
  obtain ⟨logLevel, hlogLevel⟩ := exists_mapM_of_assigned h.logLevel
  obtain ⟨encryptionKey, hencryptionKey⟩ := exists_mapM_of_assigned h.encryptionKey
  exact ⟨⟨some options.url, some options.apiKey, backendPort, collectorPort, logLevel,
    encryptionKey⟩, mapM_of_bind h.url, mapM_of_bind h.apiKey, hbackendPort, hcollectorPort,
    hlogLevel, hencryptionKey⟩

/-- An array that makes options has the two elements that are required. -/
theorem Given.Makes.length {items : List Tree} {options : Options}
    (h : (givenAt items).Makes options) : 2 ≤ items.length := by
  obtain ⟨tree, htree, -⟩ := Option.bind_eq_some_iff.mp h.apiKey
  obtain ⟨hlength, -⟩ := List.getElem?_eq_some_iff.mp htree
  exact hlength

/-- Settings that have been found make options if the required ones are there. -/
theorem Partial.Holds.options_eq_ok_iff {options : Options} (h : found.Holds given) :
    found.options = .ok options ↔ given.Makes options := by
  have hurl := bind_eq_of_mapM h.url
  have hapiKey := bind_eq_of_mapM h.apiKey
  rw [Partial.options]
  cases hfoundUrl : found.url with
  | none =>
    refine ⟨fun h => (by cases h), fun hmakes => ?_⟩
    rw [hfoundUrl, hmakes.url] at hurl
    cases hurl
  | some url =>
    cases hfoundKey : found.apiKey with
    | none =>
      refine ⟨fun h => (by cases h), fun hmakes => ?_⟩
      rw [hfoundKey, hmakes.apiKey] at hapiKey
      cases hapiKey
    | some apiKey =>
      rw [hfoundUrl] at hurl
      rw [hfoundKey] at hapiKey
      constructor
      · intro hoptions
        obtain rfl := Except.ok.inj hoptions
        exact ⟨hurl, hapiKey, (assigned_iff_of_mapM h.backendPort).mpr rfl,
          (assigned_iff_of_mapM h.collectorPort).mpr rfl,
          (assigned_iff_of_mapM h.logLevel).mpr rfl,
          (assigned_iff_of_mapM h.encryptionKey).mpr rfl⟩
      · intro hmakes
        obtain ⟨url', apiKey', backendPort, collectorPort, logLevel, encryptionKey⟩ := options
        obtain rfl := Option.some.inj (hurl.symm.trans hmakes.url)
        obtain rfl := Option.some.inj (hapiKey.symm.trans hmakes.apiKey)
        obtain rfl : found.backendPort.getD (Options.bare url apiKey).backendPort = backendPort :=
          (assigned_iff_of_mapM h.backendPort).mp hmakes.backendPort
        obtain rfl :
            found.collectorPort.getD (Options.bare url apiKey).collectorPort = collectorPort :=
          (assigned_iff_of_mapM h.collectorPort).mp hmakes.collectorPort
        obtain rfl : found.logLevel.getD (Options.bare url apiKey).logLevel = logLevel :=
          (assigned_iff_of_mapM h.logLevel).mp hmakes.logLevel
        obtain rfl :
            found.encryptionKey.getD (Options.bare url apiKey).encryptionKey = encryptionKey :=
          (assigned_iff_of_mapM h.encryptionKey).mp hmakes.encryptionKey
        rfl

end

end Startup
end FailOpen
