import FailOpen.Proofs.Startup.Handover
import FailOpen.Proofs.Startup.PortText
import FailOpen.Startup.Document
import FailOpen.Startup.Environment
import Mathlib.Order.WellFounded

/-!
# Options from valid settings

Options come out of a lookup of named settings exactly if the settings are valid: the host and the
key are there, the ports are spelled as ports and the log level is a known one.  The options then
are the settings, with defaults for those that are absent.  Otherwise the fault is that of the first
setting that violates its condition.  `ReadExactly` collects this.
-/

namespace FailOpen
namespace Startup

/-- The name under which a setting is looked up. -/
def Setting.key : Setting → String
  | .url => "METLO_HOST"
  | .apiKey => "METLO_KEY"
  | .backendPort => "BACKEND_PORT"
  | .collectorPort => "COLLECTOR_PORT"
  | .logLevel => "LOG_LEVEL"
  | .encryptionKey => "METLO_ENCRYPTION_KEY"

/-- What a port setting is read as. -/
inductive ReadsPort : Option String → Option UInt16 → Prop where
  | absent : ReadsPort none none
  | present {value : String} {port : UInt16} (h : Port.Spells value.toList port.toNat) :
      ReadsPort (some value) (some port)

/-- The condition on a setting. -/
def Setting.Holds (lookup : String → Option String) : Setting → Prop
  | .url => (lookup "METLO_HOST").isSome
  | .apiKey => (lookup "METLO_KEY").isSome
  | .backendPort => ∀ value, lookup "BACKEND_PORT" = some value →
      ∃ n ≤ 65535, Port.Spells value.toList n
  | .collectorPort => ∀ value, lookup "COLLECTOR_PORT" = some value →
      ∃ n ≤ 65535, Port.Spells value.toList n
  | .logLevel => ∀ level, lookup "LOG_LEVEL" = some level →
      level ∈ ["trace", "debug", "info", "warn", "error"]
  | .encryptionKey => True

/-- The options hold the settings that are present, and the default where one is absent. -/
structure Assigns (lookup : String → Option String) (options : Options) : Prop where
  url : lookup "METLO_HOST" = some options.url
  apiKey : lookup "METLO_KEY" = some options.apiKey
  backendPort : ReadsPort (lookup "BACKEND_PORT") options.backendPort
  collectorPort : ∃ port, ReadsPort (lookup "COLLECTOR_PORT") port ∧
    options.collectorPort = port.getD 8081
  logLevel : options.logLevel = (lookup "LOG_LEVEL").getD "info"
  encryptionKey : options.encryptionKey = (lookup "METLO_ENCRYPTION_KEY").getD ""

/-- A setting whose condition does not hold, and how that is reported. -/
inductive Violates (lookup : String → Option String) : Setting → LookupFault → Prop where
  | url (h : lookup "METLO_HOST" = none) : Violates lookup .url (.missing "METLO_HOST")
  | apiKey (h : lookup "METLO_KEY" = none) : Violates lookup .apiKey (.missing "METLO_KEY")
  | backendPort {value : String} {fault : PortFault} (h : lookup "BACKEND_PORT" = some value)
      (hfault : Port.Faulty value.toList fault) :
      Violates lookup .backendPort (.port "BACKEND_PORT" value fault)
  | collectorPort {value : String} {fault : PortFault}
      (h : lookup "COLLECTOR_PORT" = some value) (hfault : Port.Faulty value.toList fault) :
      Violates lookup .collectorPort (.port "COLLECTOR_PORT" value fault)
  | logLevel {level : String} (h : lookup "LOG_LEVEL" = some level)
      (hlevel : level ∉ ["trace", "debug", "info", "warn", "error"]) :
      Violates lookup .logLevel (.logLevel ⟨level⟩)

/-- The fault of the first setting whose condition does not hold. -/
def FirstViolation (lookup : String → Option String) (fault : LookupFault) : Prop :=
  ∃ setting, Violates lookup setting fault ∧
    ∀ earlier, Setting.all.idxOf earlier < Setting.all.idxOf setting → earlier.Holds lookup

/-! ## Single settings -/

theorem ReadsPort.unique {value : Option String} {port other : Option UInt16}
    (h : ReadsPort value port) (hother : ReadsPort value other) : port = other := by
  cases h with
  | absent => cases hother; rfl
  | present h =>
    cases hother with
    | present hother =>
      have hread := Port.read_eq_ok_iff.mpr h
      rw [Port.read_eq_ok_iff.mpr hother] at hread
      rw [Except.ok.inj hread]

variable {lookup : String → Option String}

theorem ReadsPort.nul_notMem {value : String} {port : Option UInt16}
    (h : ReadsPort (some value) port) : '\x00' ∉ value.toList := by
  cases h with
  | present h => exact h.nul_notMem

theorem optionalPort_of_faulty {name value : String} {fault : PortFault}
    (hvalue : lookup name = some value) (hfaulty : Port.Faulty value.toList fault) :
    optionalPort lookup name = .error (.port name value fault) := by
  rw [optionalPort, hvalue]
  simp only [Port.parse]
  rw [hfaulty.read]
  rfl

/-- A port setting that is absent or spells a port is read. -/
theorem optionalPort_of_spells {name : String}
    (h : ∀ value, lookup name = some value → ∃ n ≤ 65535, Port.Spells value.toList n) :
    ∃ port, optionalPort lookup name = .ok port ∧ ReadsPort (lookup name) port := by
  cases hvalue : lookup name with
  | none => exact ⟨none, by rw [optionalPort, hvalue], .absent⟩
  | some value =>
    obtain ⟨n, hn, hspells⟩ := h value hvalue
    have hread := hspells.read (Nat.lt_succ_of_le hn)
    refine ⟨some (UInt16.ofNat n), ?_, .present (Port.read_eq_ok_iff.mp hread)⟩
    rw [optionalPort, hvalue]
    simp only [Port.parse]
    rw [hread]
    rfl

/-- An unset log level is the default one, which is known. -/
theorem Setting.holds_logLevel_iff :
    Setting.Holds lookup .logLevel ↔ (lookup "LOG_LEVEL").getD "info" ∈ knownLogLevels := by
  cases hlevel : lookup "LOG_LEVEL" with
  | none => simp [Setting.Holds, hlevel, knownLogLevels]
  | some level => simp [Setting.Holds, hlevel, knownLogLevels]

theorem Setting.holds_or_violates (lookup : String → Option String) (setting : Setting) :
    setting.Holds lookup ∨ ∃ fault, Violates lookup setting fault := by
  have hport (name : String) : (∀ value, lookup name = some value →
      ∃ n ≤ 65535, Port.Spells value.toList n) ∨
        ∃ value fault, lookup name = some value ∧ Port.Faulty value.toList fault := by
    cases lookup name with
    | none => exact .inl fun value hvalue => (nomatch hvalue)
    | some value =>
      rcases Port.spells_or_faulty value.toList with ⟨n, hspells, hn⟩ | ⟨fault, hfaulty⟩
      · refine .inl fun _ hvalue => ⟨n, Nat.le_of_lt_succ hn, ?_⟩
        rwa [← Option.some.inj hvalue]
      · exact .inr ⟨value, fault, rfl, hfaulty⟩
  cases setting with
  | url =>
    cases h : lookup "METLO_HOST" with
    | none => exact .inr ⟨_, .url h⟩
    | some url => exact .inl (by rw [Holds, h]; rfl)
  | apiKey =>
    cases h : lookup "METLO_KEY" with
    | none => exact .inr ⟨_, .apiKey h⟩
    | some apiKey => exact .inl (by rw [Holds, h]; rfl)
  | backendPort =>
    exact (hport "BACKEND_PORT").imp_right fun ⟨_, _, h, hfaulty⟩ => ⟨_, .backendPort h hfaulty⟩
  | collectorPort =>
    exact (hport "COLLECTOR_PORT").imp_right fun ⟨_, _, h, hfaulty⟩ =>
      ⟨_, .collectorPort h hfaulty⟩
  | logLevel =>
    by_cases hholds : Holds lookup .logLevel
    · exact .inl hholds
    · obtain ⟨level, h⟩ := not_forall.mp hholds
      obtain ⟨hvalue, hlevel⟩ := Classical.not_imp.mp h
      exact .inr ⟨_, .logLevel hvalue hlevel⟩
  | encryptionKey => exact .inl trivial

theorem Violates.not_holds {setting : Setting} {fault : LookupFault}
    (h : Violates lookup setting fault) : ¬ setting.Holds lookup := by
  have hport {name value : String} {fault : PortFault} (h : lookup name = some value)
      (hfaulty : Port.Faulty value.toList fault) :
      ¬ ∀ value, lookup name = some value → ∃ n ≤ 65535, Port.Spells value.toList n := by
    intro hspells
    obtain ⟨n, hn, hn'⟩ := hspells value h
    exact hn'.not_faulty (Nat.lt_succ_of_le hn) hfaulty
  cases h with
  | url h => simp [Setting.Holds, h]
  | apiKey h => simp [Setting.Holds, h]
  | backendPort h hfaulty => exact hport h hfaulty
  | collectorPort h hfaulty => exact hport h hfaulty
  | logLevel h hlevel => exact fun hknown => hlevel (hknown _ h)

/-! ## All settings -/

/-- All conditions hold, or there is a first one that does not. -/
theorem holds_or_firstViolation (lookup : String → Option String) :
    (∀ setting : Setting, setting.Holds lookup) ∨ ∃ fault, FirstViolation lookup fault := by
  by_cases hall : ∀ setting : Setting, setting.Holds lookup
  · exact .inl hall
  · obtain ⟨some, hsome⟩ := not_forall.mp hall
    obtain ⟨first, hfirst, hleast⟩ := (measure Setting.all.idxOf).wf.has_min
      {setting | ¬ setting.Holds lookup} ⟨some, hsome⟩
    obtain ⟨fault, hviolates⟩ := (first.holds_or_violates lookup).resolve_left hfirst
    refine .inr ⟨fault, first, hviolates, ?_⟩
    intro earlier hlt
    exact not_not.mp fun hearlier => hleast earlier hearlier hlt

/-- Nothing but the six settings is looked up. -/
theorem ofLookup_congr {lookup lookup' : String → Option String}
    (h : ∀ setting : Setting, lookup setting.key = lookup' setting.key) :
    Options.ofLookup lookup = Options.ofLookup lookup' := by
  have hurl : lookup "METLO_HOST" = lookup' "METLO_HOST" := h .url
  have hapiKey : lookup "METLO_KEY" = lookup' "METLO_KEY" := h .apiKey
  have hbackend : lookup "BACKEND_PORT" = lookup' "BACKEND_PORT" := h .backendPort
  have hcollector : lookup "COLLECTOR_PORT" = lookup' "COLLECTOR_PORT" := h .collectorPort
  have hlevel : lookup "LOG_LEVEL" = lookup' "LOG_LEVEL" := h .logLevel
  have hkey : lookup "METLO_ENCRYPTION_KEY" = lookup' "METLO_ENCRYPTION_KEY" := h .encryptionKey
  simp only [Options.ofLookup, required, optionalPort, hurl, hapiKey, hbackend, hcollector, hlevel,
    hkey]

/-- The options once the ports have been read. -/
theorem ofLookup_of_ports {url apiKey : String} {backendPort collectorPort : Option UInt16}
    (hurl : lookup "METLO_HOST" = some url) (hapiKey : lookup "METLO_KEY" = some apiKey)
    (hbackend : optionalPort lookup "BACKEND_PORT" = .ok backendPort)
    (hcollector : optionalPort lookup "COLLECTOR_PORT" = .ok collectorPort) :
    Options.ofLookup lookup =
      let level := (lookup "LOG_LEVEL").getD "info"
      if level ∈ knownLogLevels then
        .ok ⟨url, apiKey, backendPort, collectorPort.getD 8081, level,
          (lookup "METLO_ENCRYPTION_KEY").getD ""⟩
      else .error (.logLevel ⟨level⟩) := by
  unfold Options.ofLookup required
  rw [hurl, hapiKey, hbackend, hcollector]
  dsimp only [bind, Except.bind, Options.logLevelFault?]
  by_cases hlevel : (lookup "LOG_LEVEL").getD "info" ∈ knownLogLevels
  · rw [if_pos hlevel, if_pos hlevel]
    rfl
  · rw [if_neg hlevel, if_neg hlevel]
    rfl

theorem ofLookup_of_holds (h : ∀ setting : Setting, setting.Holds lookup) :
    ∃ options, Options.ofLookup lookup = .ok options ∧ Assigns lookup options := by
  obtain ⟨url, hurl⟩ := Option.isSome_iff_exists.mp (h .url)
  obtain ⟨apiKey, hapiKey⟩ := Option.isSome_iff_exists.mp (h .apiKey)
  obtain ⟨backendPort, hbackend, hreads⟩ := optionalPort_of_spells (h .backendPort)
  obtain ⟨collectorPort, hcollector, hreads'⟩ := optionalPort_of_spells (h .collectorPort)
  refine ⟨_, (ofLookup_of_ports hurl hapiKey hbackend hcollector).trans
    (if_pos (Setting.holds_logLevel_iff.mp (h .logLevel))), ?_⟩
  exact ⟨hurl, hapiKey, hreads, ⟨_, hreads', rfl⟩, rfl, rfl⟩

theorem FirstViolation.ofLookup {fault : LookupFault} (h : FirstViolation lookup fault) :
    Options.ofLookup lookup = .error fault := by
  obtain ⟨setting, hviolates, hearlier⟩ := h
  cases hviolates with
  | url hurl =>
    unfold Options.ofLookup required
    rw [hurl]
    rfl
  | apiKey hapiKey =>
    obtain ⟨url, hurl⟩ := Option.isSome_iff_exists.mp (hearlier .url (by decide))
    unfold Options.ofLookup required
    rw [hurl, hapiKey]
    rfl
  | backendPort hvalue hfaulty =>
    obtain ⟨url, hurl⟩ := Option.isSome_iff_exists.mp (hearlier .url (by decide))
    obtain ⟨apiKey, hapiKey⟩ := Option.isSome_iff_exists.mp (hearlier .apiKey (by decide))
    unfold Options.ofLookup required
    rw [hurl, hapiKey, optionalPort_of_faulty hvalue hfaulty]
    rfl
  | collectorPort hvalue hfaulty =>
    obtain ⟨url, hurl⟩ := Option.isSome_iff_exists.mp (hearlier .url (by decide))
    obtain ⟨apiKey, hapiKey⟩ := Option.isSome_iff_exists.mp (hearlier .apiKey (by decide))
    obtain ⟨_, hbackend, -⟩ := optionalPort_of_spells (hearlier .backendPort (by decide))
    unfold Options.ofLookup required
    rw [hurl, hapiKey, hbackend, optionalPort_of_faulty hvalue hfaulty]
    rfl
  | @logLevel level hvalue hlevel =>
    obtain ⟨url, hurl⟩ := Option.isSome_iff_exists.mp (hearlier .url (by decide))
    obtain ⟨apiKey, hapiKey⟩ := Option.isSome_iff_exists.mp (hearlier .apiKey (by decide))
    obtain ⟨_, hbackend, -⟩ := optionalPort_of_spells (hearlier .backendPort (by decide))
    obtain ⟨_, hcollector, -⟩ := optionalPort_of_spells (hearlier .collectorPort (by decide))
    rw [ofLookup_of_ports hurl hapiKey hbackend hcollector, hvalue]
    exact if_neg hlevel

theorem ofLookup_cases (lookup : String → Option String) :
    ((∀ setting : Setting, setting.Holds lookup) ∧
        ∃ options, Options.ofLookup lookup = .ok options ∧ Assigns lookup options) ∨
      ∃ fault, Options.ofLookup lookup = .error fault ∧ FirstViolation lookup fault := by
  rcases holds_or_firstViolation lookup with hholds | ⟨fault, hfirst⟩
  · exact .inl ⟨hholds, ofLookup_of_holds hholds⟩
  · exact .inr ⟨fault, hfirst.ofLookup, hfirst⟩

theorem FirstViolation.not_holds {fault : LookupFault} (h : FirstViolation lookup fault) :
    ¬ ∀ setting : Setting, setting.Holds lookup := by
  obtain ⟨setting, hviolates, -⟩ := h
  exact fun hholds => hviolates.not_holds (hholds setting)

/-- The settings determine the options. -/
theorem Assigns.unique {options other : Options} (h : Assigns lookup options)
    (hother : Assigns lookup other) : options = other := by
  obtain ⟨port, hport, hcollector⟩ := h.collectorPort
  obtain ⟨port', hport', hcollector'⟩ := hother.collectorPort
  cases options
  cases other
  simp only [Options.mk.injEq]
  refine ⟨?_, ?_, h.backendPort.unique hother.backendPort, ?_,
    h.logLevel.trans hother.logLevel.symm, h.encryptionKey.trans hother.encryptionKey.symm⟩
  · exact Option.some.inj (h.url.symm.trans hother.url)
  · exact Option.some.inj (h.apiKey.symm.trans hother.apiKey)
  · exact hcollector.trans (hport.unique hport' ▸ hcollector'.symm)

theorem ofLookup_eq_ok_iff {options : Options} :
    Options.ofLookup lookup = .ok options ↔
      (∀ setting : Setting, setting.Holds lookup) ∧ Assigns lookup options := by
  rcases ofLookup_cases lookup with ⟨hholds, other, hok, hassigns⟩ | ⟨fault, herror, hfirst⟩
  · rw [hok]
    constructor
    · intro h
      rw [← Except.ok.inj h]
      exact ⟨hholds, hassigns⟩
    · intro h
      rw [hassigns.unique h.2]
  · rw [herror]
    exact ⟨fun h => (nomatch h), fun h => absurd h.1 hfirst.not_holds⟩

theorem ofLookup_eq_error_iff {fault : LookupFault} :
    Options.ofLookup lookup = .error fault ↔ FirstViolation lookup fault := by
  rcases ofLookup_cases lookup with ⟨hholds, other, hok, -⟩ | ⟨first, herror, hfirst⟩
  · rw [hok]
    exact ⟨fun h => (nomatch h), fun h => absurd hholds h.not_holds⟩
  · constructor
    · intro h
      rw [herror] at h
      rwa [← Except.error.inj h]
    · exact FirstViolation.ofLookup

/-! ## What follows from the options -/

theorem Assigns.logLevelFault?_eq_none {options : Options} (h : Assigns lookup options)
    (hlevel : Setting.Holds lookup .logLevel) : options.logLevelFault? = none := by
  unfold Options.logLevelFault?
  rw [h.logLevel]
  exact if_pos (Setting.holds_logLevel_iff.mp hlevel)

/-- The texts of the options are free of NUL if the settings are, and ports always are. -/
theorem Assigns.nul_notMem_iff {options : Options} (h : Assigns lookup options) :
    (∀ setting, '\x00' ∉ (options.text setting).toList) ↔
      ∀ (setting : Setting) (value : String), lookup setting.key = some value →
        '\x00' ∉ value.toList := by
  constructor
  · intro hclean setting value hvalue
    cases setting with
    | url =>
      rw [← Option.some.inj (h.url.symm.trans hvalue)]
      exact hclean .url
    | apiKey =>
      rw [← Option.some.inj (h.apiKey.symm.trans hvalue)]
      exact hclean .apiKey
    | backendPort =>
      have hport := h.backendPort
      rw [show lookup "BACKEND_PORT" = some value from hvalue] at hport
      exact hport.nul_notMem
    | collectorPort =>
      obtain ⟨port, hport, -⟩ := h.collectorPort
      rw [show lookup "COLLECTOR_PORT" = some value from hvalue] at hport
      exact hport.nul_notMem
    | logLevel =>
      have hlevel := h.logLevel
      rw [show lookup "LOG_LEVEL" = some value from hvalue, Option.getD_some] at hlevel
      exact hlevel ▸ hclean .logLevel
    | encryptionKey =>
      have hkey := h.encryptionKey
      rw [show lookup "METLO_ENCRYPTION_KEY" = some value from hvalue, Option.getD_some] at hkey
      exact hkey ▸ hclean .encryptionKey
  · intro hclean setting
    cases setting with
    | url => exact hclean .url _ h.url
    | apiKey => exact hclean .apiKey _ h.apiKey
    | logLevel =>
      show '\x00' ∉ options.logLevel.toList
      rw [h.logLevel]
      cases hvalue : lookup "LOG_LEVEL" with
      | none => decide
      | some level => exact hclean .logLevel level hvalue
    | encryptionKey =>
      show '\x00' ∉ options.encryptionKey.toList
      rw [h.encryptionKey]
      cases hvalue : lookup "METLO_ENCRYPTION_KEY" with
      | none => decide
      | some key => exact hclean .encryptionKey key hvalue

/-! ## Messages -/

theorem PortFault.message_injective {fault other : PortFault} (h : fault.message = other.message) :
    fault = other := by
  revert h
  cases fault <;> cases other <;> decide

/-- The ninth character of the message about a setting. -/
def Setting.mark : Setting → Char
  | .backendPort => 'B'
  | .collectorPort => 'C'
  | .logLevel => 'l'
  | _ => ' '

theorem mark_append {front rest : String} {c : Char} (h : front.toList[8]? = some c) :
    (front ++ rest).toList[8]? = some c := by
  rw [String.toList_append, List.getElem?_append_left (List.getElem?_eq_some_iff.mp h).1, h]

theorem Violates.mark_message {setting : Setting} {fault : LookupFault}
    (h : Violates lookup setting fault) : fault.message.toList[8]? = some setting.mark := by
  cases h with
  | url => rfl
  | apiKey => rfl
  | backendPort => exact mark_append (mark_append (mark_append (mark_append rfl)))
  | collectorPort => exact mark_append (mark_append (mark_append (mark_append rfl)))
  | logLevel => exact mark_append (mark_append (mark_append rfl))

/-- The message tells what is wrong with the settings. -/
theorem Violates.message_injective {setting setting' : Setting} {fault fault' : LookupFault}
    (h : Violates lookup setting fault) (h' : Violates lookup setting' fault')
    (hmessage : fault.message = fault'.message) : fault = fault' := by
  have hmark : setting.mark = setting'.mark := by
    have hmark := h.mark_message
    rw [hmessage, h'.mark_message] at hmark
    exact (Option.some.inj hmark).symm
  cases h with
  | url h =>
    cases h' with
    | url => rfl
    | apiKey => exact absurd hmessage (by decide)
    | _ => exact absurd hmark (by decide)
  | apiKey h =>
    cases h' with
    | url => exact absurd hmessage (by decide)
    | apiKey => rfl
    | _ => exact absurd hmark (by decide)
  | backendPort h =>
    cases h' with
    | backendPort h' =>
      cases Option.some.inj (h.symm.trans h')
      rw [PortFault.message_injective ((String.append_right_inj _).mp hmessage)]
    | _ => exact absurd hmark (by decide)
  | collectorPort h =>
    cases h' with
    | collectorPort h' =>
      cases Option.some.inj (h.symm.trans h')
      rw [PortFault.message_injective ((String.append_right_inj _).mp hmessage)]
    | _ => exact absurd hmark (by decide)
  | logLevel h =>
    cases h' with
    | logLevel h' => rw [Option.some.inj (h.symm.trans h')]
    | _ => exact absurd hmark (by decide)

/-! ## The options of a lookup -/

/-- Everything that holds of the options of a lookup. -/
structure ReadExactly (lookup : String → Option String) : Prop where
  /-- The settings make options exactly if each meets its condition. -/
  accepts : (∃ options, Options.ofLookup lookup = .ok options) ↔
    ∀ setting : Setting, setting.Holds lookup
  /-- The options hold the settings that are present and the defaults of the others. -/
  assigns : ∀ options, Options.ofLookup lookup = .ok options →
    Assigns lookup options ∧ ∀ other, Assigns lookup other → other = options
  /-- Their log level is a known one. -/
  validates : ∀ options, Options.ofLookup lookup = .ok options → options.logLevelFault? = none
  /-- They make startup arguments unless a setting has a NUL. -/
  arguments : ∀ options, Options.ofLookup lookup = .ok options →
    ((∃ args, options.arguments = .ok args) ↔
      ∀ (setting : Setting) (value : String), lookup setting.key = some value →
        '\x00' ∉ value.toList)
  /-- Otherwise the fault is that of the first setting that does not meet its condition. -/
  rejects : ∀ fault, Options.ofLookup lookup = .error fault ↔ FirstViolation lookup fault
  /-- Its message tells it from everything else that may be wrong with the settings. -/
  told : ∀ setting setting' fault fault', Violates lookup setting fault →
    Violates lookup setting' fault' → fault.message = fault'.message → fault = fault'

/-- **Valid settings, and only they, make options.** -/
theorem readExactly (lookup : String → Option String) : ReadExactly lookup where
  accepts := by
    constructor
    · rintro ⟨options, hok⟩
      exact (ofLookup_eq_ok_iff.mp hok).1
    · intro hholds
      obtain ⟨options, hok, -⟩ := ofLookup_of_holds hholds
      exact ⟨options, hok⟩
  assigns := by
    intro options hok
    obtain ⟨-, hassigns⟩ := ofLookup_eq_ok_iff.mp hok
    exact ⟨hassigns, fun other hother => hother.unique hassigns⟩
  validates := by
    intro options hok
    obtain ⟨hholds, hassigns⟩ := ofLookup_eq_ok_iff.mp hok
    exact hassigns.logLevelFault?_eq_none (hholds .logLevel)
  arguments := by
    intro options hok
    rw [Options.exists_arguments_iff]
    exact (ofLookup_eq_ok_iff.mp hok).2.nul_notMem_iff
  rejects _ := ofLookup_eq_error_iff
  told _ _ _ _ := Violates.message_injective

/-- Settings with a host, a key and the given backend port. -/
def withBackendPort (value : String) (name : String) : Option String :=
  if name = "METLO_HOST" then some "https://h"
  else if name = "METLO_KEY" then some "k"
  else if name = "BACKEND_PORT" then some value
  else none

/-- A sign and leading zeros are allowed.  A letter behind too many digits is not reached. -/
theorem withBackendPort_readExactly :
    (∀ setting : Setting, setting.Holds (withBackendPort "+0065535")) ∧
      Assigns (withBackendPort "+0065535")
        { url := "https://h", apiKey := "k", backendPort := some 65535 } ∧
      FirstViolation (withBackendPort "6553a") (.port "BACKEND_PORT" "6553a" .invalidDigit) ∧
      FirstViolation (withBackendPort "65536a") (.port "BACKEND_PORT" "65536a" .tooLarge) :=
  ⟨(readExactly _).accepts.mp ⟨_, rfl⟩, ((readExactly _).assigns _ rfl).1,
    ((readExactly _).rejects _).mp rfl, ((readExactly _).rejects _).mp rfl⟩

end Startup
end FailOpen
