import FailOpen.Proofs.Startup.Lookup
import FailOpen.Proofs.Text.Utf8Strict
import FailOpen.Update

/-!
# Options from a process environment

The variables of a process environment are byte strings.  Options that come out of one hold every
variable that is set exactly if all of them are text.  A variable whose bytes are no text counts as
unset: the options are then those of the environment without it, and no fault is reported.
`undecodableKey_dropped` is an environment whose encryption key is lost in this way.
-/

namespace FailOpen
namespace Startup

open Text

/-- The options hold the variables that are set, byte for byte, and the defaults of the others. -/
def Reflects (environment : String → Option (List UInt8)) (options : Options) : Prop :=
  ∃ lookup : String → Option String,
    (∀ setting : Setting, environment setting.key = (lookup setting.key).map Utf8.encode) ∧
      Assigns lookup options

theorem Setting.key_injective {setting other : Setting} (h : setting.key = other.key) :
    setting = other := by
  revert h
  cases setting <;> cases other <;> decide

variable {environment : String → Option (List UInt8)} {options : Options}

/-- What is set and is text is held. -/
theorem Reflects.of_text (h : Options.ofEnvironment environment = .ok options)
    (htext : ∀ (setting : Setting) (bytes : List UInt8), environment setting.key = some bytes →
      ∃ text, bytes = Utf8.encode text) :
    Reflects environment options := by
  refine ⟨_, ?_, (ofLookup_eq_ok_iff.mp h).2⟩
  intro setting
  cases hset : environment setting.key with
  | none => rfl
  | some bytes =>
    obtain ⟨text, rfl⟩ := htext setting bytes hset
    simp only [Option.bind_some, Utf8.decode?_eq_some_iff.mpr rfl, Option.map_some]

theorem Reflects.text (h : Reflects environment options) {setting : Setting}
    {bytes : List UInt8} (hset : environment setting.key = some bytes) :
    ∃ text, bytes = Utf8.encode text := by
  obtain ⟨lookup, hlookup, -⟩ := h
  rw [hlookup setting, Option.map_eq_some_iff] at hset
  obtain ⟨text, -, rfl⟩ := hset
  exact ⟨text, rfl⟩

/-- A variable that is no text counts as unset. -/
theorem ofEnvironment_update {setting : Setting} {bytes : List UInt8}
    (hset : environment setting.key = some bytes) (htext : ∀ text, bytes ≠ Utf8.encode text) :
    Options.ofEnvironment (update environment setting.key none) =
      Options.ofEnvironment environment := by
  refine ofLookup_congr fun other => ?_
  by_cases hother : other = setting
  · subst hother
    rw [update_same, hset]
    exact (Utf8.decode?_eq_none_iff.mpr htext).symm
  · rw [update_of_ne environment none fun h => hother (Setting.key_injective h)]

/-- What holds of options that come out of an environment. -/
structure TextHeld (environment : String → Option (List UInt8)) (options : Options) : Prop where
  /-- Every variable that is set is held exactly if all of them are text. -/
  reflects : Reflects environment options ↔
    ∀ (setting : Setting) (bytes : List UInt8), environment setting.key = some bytes →
      ∃ text, bytes = Utf8.encode text
  /-- The options are the same without a variable that is no text. -/
  dropped : ∀ (setting : Setting) (bytes : List UInt8), environment setting.key = some bytes →
    (∀ text, bytes ≠ Utf8.encode text) →
      Options.ofEnvironment (update environment setting.key none) = .ok options

/-- **Options hold the variables that are text.** -/
theorem textHeld (h : Options.ofEnvironment environment = .ok options) :
    TextHeld environment options where
  reflects := ⟨fun hreflects _ _ => hreflects.text, Reflects.of_text h⟩
  dropped _ _ hset htext := (ofEnvironment_update hset htext).trans h

/-- An environment with a host, a key and an encryption key of one byte that begins no character. -/
def undecodableKey (name : String) : Option (List UInt8) :=
  if name = "METLO_HOST" then some (Utf8.encode "https://h")
  else if name = "METLO_KEY" then some (Utf8.encode "k")
  else if name = "METLO_ENCRYPTION_KEY" then some [0xFF]
  else none

theorem undecodableKey_ne (text : String) : [0xFF] ≠ Utf8.encode text :=
  Utf8.decode?_eq_none_iff.mp (by decide) text

/-- The encryption key makes no difference to the options. -/
theorem undecodableKey_textHeld :
    Options.ofEnvironment undecodableKey = .ok { url := "https://h", apiKey := "k" } ∧
      Options.ofEnvironment (update undecodableKey "METLO_ENCRYPTION_KEY" none) =
        .ok { url := "https://h", apiKey := "k" } :=
  ⟨rfl, (textHeld rfl).dropped .encryptionKey [0xFF] rfl undecodableKey_ne⟩

/-- The options come out without a fault, and their encryption key is empty instead of the one that
is set. -/
theorem undecodableKey_dropped :
    ∃ options, Options.ofEnvironment undecodableKey = .ok options ∧ options.encryptionKey = "" ∧
      undecodableKey "METLO_ENCRYPTION_KEY" = some [0xFF] ∧ ¬ Reflects undecodableKey options := by
  refine ⟨_, rfl, rfl, rfl, ?_⟩
  intro hreflects
  obtain ⟨text, htext⟩ := @Reflects.text _ _ hreflects .encryptionKey [0xFF] rfl
  exact undecodableKey_ne text htext

end Startup
end FailOpen
