import FailOpen.Startup.Config
import FailOpen.Startup.Environment

/-!
# Startup values without their secrets

The API key and the encryption key are secrets.  `redacted` removes them from options, arguments and
configurations.  What is shown for debugging is shown of the redacted value, and a lookup yields the
same redacted options, or the same fault, whatever the secrets are.
-/

namespace FailOpen
namespace Startup

/-! ## Redaction -/

def Options.redacted (options : Options) : Options :=
  { options with apiKey := "", encryptionKey := "" }

def Arguments.redacted (args : Arguments) : Arguments :=
  { args with apiKey := .empty, encryptionKey := .empty }

/-- A null pointer is no secret. -/
def RawArguments.redacted (raw : RawArguments) : RawArguments :=
  { raw with
    apiKey := raw.apiKey.map fun _ => []
    encryptionKey := raw.encryptionKey.map fun _ => [] }

def Config.redacted (config : Config) : Config :=
  { config with apiKey := "", encryptionKey := "" }

theorem Arguments.raw_redacted (args : Arguments) : args.redacted.raw = args.raw.redacted := rfl

theorem RawArguments.arguments?_redacted (raw : RawArguments) :
    raw.redacted.arguments? = raw.arguments?.map Arguments.redacted := by
  obtain ⟨url, apiKey, backendPort, collectorPort, logLevel, encryptionKey⟩ := raw
  unfold arguments? redacted
  cases url <;> cases apiKey <;> cases logLevel <;> cases encryptionKey <;> rfl

theorem RawArguments.config_redacted (raw : RawArguments) :
    raw.redacted.config = raw.config.redacted := by
  obtain ⟨url, apiKey, backendPort, collectorPort, logLevel, encryptionKey⟩ := raw
  cases apiKey <;> cases encryptionKey <;> rfl

/-! ## Texts for debugging -/

theorem Options.shown_redacted (options : Options) : options.redacted.shown = options.shown := rfl

theorem Arguments.shown_redacted (args : Arguments) : args.redacted.shown = args.shown := rfl

theorem Config.shown_redacted (config : Config) : config.redacted.shown = config.shown := rfl

/-! ## Lookups -/

/-- The lookups differ in nothing but the values of the two secrets. -/
structure AgreeButSecrets (lookup other : String → Option String) : Prop where
  others : ∀ name, name ≠ "METLO_KEY" → name ≠ "METLO_ENCRYPTION_KEY" → lookup name = other name
  apiKey : (lookup "METLO_KEY").isSome = (other "METLO_KEY").isSome
  encryptionKey :
    (lookup "METLO_ENCRYPTION_KEY").isSome = (other "METLO_ENCRYPTION_KEY").isSome

/-- The redacted options, or the fault, do not depend on the secrets. -/
theorem AgreeButSecrets.ofLookup {lookup other : String → Option String}
    (h : AgreeButSecrets lookup other) :
    (Options.ofLookup lookup).map Options.redacted =
      (Options.ofLookup other).map Options.redacted := by
  have hurl := h.others "METLO_HOST" (by decide) (by decide)
  have hlevel := h.others "LOG_LEVEL" (by decide) (by decide)
  have hport : ∀ name, name ≠ "METLO_KEY" → name ≠ "METLO_ENCRYPTION_KEY" →
      optionalPort lookup name = optionalPort other name := by
    intro name hname hname'
    rw [optionalPort, optionalPort, h.others name hname hname']
  have hbackend := hport "BACKEND_PORT" (by decide) (by decide)
  have hcollector := hport "COLLECTOR_PORT" (by decide) (by decide)
  have hapiKey := h.apiKey
  unfold Options.ofLookup required
  rw [hurl, hbackend, hcollector, hlevel]
  -- both lookups go through the same checks; only the presence of the key is one of them
  cases other "METLO_HOST" with
  | none => rfl
  | some url =>
  cases hkey : lookup "METLO_KEY" with
  | none =>
    rw [hkey, Option.isSome_none, eq_comm, Option.isSome_eq_false_iff, Option.isNone_iff_eq_none]
      at hapiKey
    rw [hapiKey]
    rfl
  | some apiKey =>
  rw [hkey, Option.isSome_some, eq_comm, Option.isSome_iff_exists] at hapiKey
  obtain ⟨apiKey', hkey'⟩ := hapiKey
  rw [hkey']
  cases optionalPort other "BACKEND_PORT" with
  | error fault => rfl
  | ok backendPort =>
  cases optionalPort other "COLLECTOR_PORT" with
  | error fault => rfl
  | ok collectorPort =>
  dsimp only [bind, Except.bind, Options.logLevelFault?]
  by_cases hknown : (other "LOG_LEVEL").getD "info" ∈ knownLogLevels
  · rw [if_pos hknown]
    rfl
  · rw [if_neg hknown]

end Startup
end FailOpen
