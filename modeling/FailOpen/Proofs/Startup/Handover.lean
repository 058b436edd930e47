import FailOpen.Proofs.Bridge.Transparency
import FailOpen.Proofs.Course.Slots
import FailOpen.Proofs.Text.CString

/-!
# Options reach an engine as they are

Startup options are text.  They become startup arguments, cross the boundary to the entry point of
an engine as pointers, and are read there again.  `HandedOver` says that nothing is lost on the way:
the arguments can be made unless a setting has a NUL, the entry point is called with arguments that
read as the options, and an engine tells any two options apart, except that an unset backend port is
passed on as zero.

What the engine makes of its configuration is left to it.
-/

namespace FailOpen
namespace Startup

open Text

/-- The settings that are passed on as strings, in the order in which they are checked. -/
def TextSetting.ordered : List TextSetting :=
  [.url, .apiKey, .logLevel, .encryptionKey]

theorem TextSetting.idxOf_ordered_injective {setting other : TextSetting}
    (h : ordered.idxOf setting = ordered.idxOf other) : setting = other := by
  revert h
  cases setting <;> cases other <;> decide

/-- No two names begin with the same letter. -/
theorem TextSetting.head?_name_injective {setting other : TextSetting}
    (h : setting.name.toList.head? = other.name.toList.head?) : setting = other := by
  revert h
  cases setting <;> cases other <;> decide

theorem NulFault.head?_message (fault : NulFault) :
    fault.message.toList.head? = fault.setting.name.toList.head? := by
  have hname : fault.setting.name.toList.head?.isSome := by
    cases fault.setting <;> decide
  rw [message, String.append_assoc, String.toList_append, List.head?_append,
    Option.or_of_isSome hname]

/-- The message of a fault names the setting and the place. -/
theorem NulFault.message_injective {fault other : NulFault} (h : fault.message = other.message) :
    fault = other := by
  have hsetting : fault.setting = other.setting := by
    refine TextSetting.head?_name_injective ?_
    rw [← fault.head?_message, h, other.head?_message]
  rw [message, message, hsetting, String.append_right_inj] at h
  have hposition : fault.position = other.position :=
    calc fault.position
      _ = Nat.ofDigitChars 10 fault.position.repr.toList 0 := by
        rw [Nat.toList_repr, Nat.ofDigitChars_ten_toDigits]
      _ = Nat.ofDigitChars 10 other.position.repr.toList 0 := by rw [h]
      _ = other.position := by rw [Nat.toList_repr, Nat.ofDigitChars_ten_toDigits]
  cases fault
  cases other
  cases hsetting
  cases hposition
  rfl

namespace Options

/-- The text of a setting. -/
def text (options : Options) : TextSetting → String
  | .url => options.url
  | .apiKey => options.apiKey
  | .logLevel => options.logLevel
  | .encryptionKey => options.encryptionKey

/-- The configuration that the options describe. -/
def config (options : Options) : Config where
  url := options.url
  apiKey := options.apiKey
  backendPort := options.backendPort.getD noPort
  collectorPort := options.collectorPort
  logLevel := options.logLevel
  encryptionKey := options.encryptionKey

/-- The options with a backend port, which is zero if none was set. -/
def settled (options : Options) : Options :=
  { options with backendPort := some (options.backendPort.getD noPort) }

/-- The first NUL of the first setting that has one. -/
structure FirstFault (options : Options) (fault : NulFault) : Prop where
  /-- No setting before it has a NUL. -/
  earlier : ∀ setting, TextSetting.ordered.idxOf setting < TextSetting.ordered.idxOf fault.setting →
    '\x00' ∉ (options.text setting).toList
  position : CString.FirstNul (Utf8.encode (options.text fault.setting)) fault.position

/-- Arguments that hold the options. -/
structure Carried (options : Options) (args : Arguments) : Prop where
  url : CString.ofText options.url = .ok args.url
  apiKey : CString.ofText options.apiKey = .ok args.apiKey
  logLevel : CString.ofText options.logLevel = .ok args.logLevel
  encryptionKey : CString.ofText options.encryptionKey = .ok args.encryptionKey
  backendPort : args.backendPort = options.backendPort.getD noPort
  collectorPort : args.collectorPort = options.collectorPort

variable {options : Options}

theorem FirstFault.nul_mem {fault : NulFault} (h : options.FirstFault fault) :
    '\x00' ∈ (options.text fault.setting).toList :=
  Utf8.zero_mem_encode.mp (List.mem_of_getElem? h.position.1)

/-- There is only one first fault. -/
theorem FirstFault.unique {fault other : NulFault} (h : options.FirstFault fault)
    (hother : options.FirstFault other) : fault = other := by
  have hsetting : fault.setting = other.setting := by
    refine TextSetting.idxOf_ordered_injective (Nat.le_antisymm ?_ ?_)
    · exact Nat.le_of_not_lt fun hlt => h.earlier _ hlt hother.nul_mem
    · exact Nat.le_of_not_lt fun hlt => hother.earlier _ hlt h.nul_mem
  obtain ⟨setting, position⟩ := fault
  obtain ⟨setting', position'⟩ := other
  obtain rfl : setting = setting' := hsetting
  obtain rfl : position = position' := h.position.unique hother.position
  rfl

theorem nul_notMem {s : String} {c : CString} (h : CString.ofText s = .ok c) :
    '\x00' ∉ s.toList :=
  CString.exists_ofText_iff.mp ⟨c, h⟩

open TextSetting (ordered) in
/-- Either the arguments hold the options, or the fault is the first one. -/
theorem arguments_cases (options : Options) :
    (∃ args, options.arguments = .ok args ∧ options.Carried args) ∨
      ∃ fault, options.arguments = .error fault ∧ options.FirstFault fault := by
  unfold arguments TextSetting.cString
  cases hurl : CString.ofText options.url with
  | error position =>
    refine .inr ⟨⟨.url, position⟩, rfl, ⟨?_, CString.ofText_eq_error_iff.mp hurl⟩⟩
    intro setting (hlt : ordered.idxOf setting < ordered.idxOf .url)
    cases setting <;> exact absurd hlt (by decide)
  | ok url =>
  cases hapiKey : CString.ofText options.apiKey with
  | error position =>
    refine .inr ⟨⟨.apiKey, position⟩, rfl, ⟨?_, CString.ofText_eq_error_iff.mp hapiKey⟩⟩
    intro setting (hlt : ordered.idxOf setting < ordered.idxOf .apiKey)
    cases setting with
    | url => exact nul_notMem hurl
    | _ => exact absurd hlt (by decide)
  | ok apiKey =>
  cases hlogLevel : CString.ofText options.logLevel with
  | error position =>
    refine .inr ⟨⟨.logLevel, position⟩, rfl, ⟨?_, CString.ofText_eq_error_iff.mp hlogLevel⟩⟩
    intro setting (hlt : ordered.idxOf setting < ordered.idxOf .logLevel)
    cases setting with
    | url => exact nul_notMem hurl
    | apiKey => exact nul_notMem hapiKey
    | _ => exact absurd hlt (by decide)
  | ok logLevel =>
  cases hencryptionKey : CString.ofText options.encryptionKey with
  | error position =>
    refine .inr ⟨⟨.encryptionKey, position⟩, rfl,
      ⟨?_, CString.ofText_eq_error_iff.mp hencryptionKey⟩⟩
    intro setting (hlt : ordered.idxOf setting < ordered.idxOf .encryptionKey)
    cases setting with
    | url => exact nul_notMem hurl
    | apiKey => exact nul_notMem hapiKey
    | logLevel => exact nul_notMem hlogLevel
    | encryptionKey => exact absurd hlt (by decide)
  | ok encryptionKey =>
    exact .inl ⟨_, rfl, ⟨hurl, hapiKey, hlogLevel, hencryptionKey, rfl, rfl⟩⟩

theorem carried_of_arguments {args : Arguments} (h : options.arguments = .ok args) :
    options.Carried args := by
  rcases options.arguments_cases with ⟨args', hargs, hcarried⟩ | ⟨fault, hfault, -⟩
  · rw [h] at hargs
    rwa [Except.ok.inj hargs]
  · rw [h] at hfault
    cases hfault

theorem Carried.nul_notMem {args : Arguments} (h : options.Carried args) (setting : TextSetting) :
    '\x00' ∉ (options.text setting).toList := by
  cases setting with
  | url => exact Options.nul_notMem h.url
  | apiKey => exact Options.nul_notMem h.apiKey
  | logLevel => exact Options.nul_notMem h.logLevel
  | encryptionKey => exact Options.nul_notMem h.encryptionKey

/-- Arguments that hold the options read as the options. -/
theorem Carried.config_raw {args : Arguments} (h : options.Carried args) :
    args.raw.config = options.config := by
  unfold Arguments.raw RawArguments.config config
  simp only
  rw [readText_cString h.url, readText_cString h.apiKey, readText_cString h.logLevel,
    readText_cString h.encryptionKey, h.backendPort, h.collectorPort]

theorem exists_arguments_iff :
    (∃ args, options.arguments = .ok args) ↔
      ∀ setting, '\x00' ∉ (options.text setting).toList := by
  constructor
  · rintro ⟨args, hargs⟩
    exact (carried_of_arguments hargs).nul_notMem
  · intro hclean
    rcases options.arguments_cases with ⟨args, hargs, -⟩ | ⟨fault, -, hfirst⟩
    · exact ⟨args, hargs⟩
    · exact absurd hfirst.nul_mem (hclean fault.setting)

theorem arguments_eq_error_iff {fault : NulFault} :
    options.arguments = .error fault ↔ options.FirstFault fault := by
  rcases options.arguments_cases with ⟨args, hargs, hcarried⟩ | ⟨first, hfault, hfirst⟩
  · rw [hargs]
    exact ⟨fun h => (nomatch h), fun h => absurd h.nul_mem (hcarried.nul_notMem fault.setting)⟩
  · rw [hfault]
    constructor
    · intro h
      rwa [← Except.error.inj h]
    · intro h
      rw [hfirst.unique h]

/-- A configuration forgets nothing but whether the backend port was set. -/
theorem config_eq_config_iff {other : Options} :
    options.config = other.config ↔ options.settled = other.settled := by
  simp only [config, settled, Config.mk.injEq, Options.mk.injEq, Option.some.injEq]

end Options
end Startup

namespace Host

open Startup

/-- The data of code that is called remember its slot. -/
theorem slot_receiveCode (host : Host) (code : Code) (call : Call) :
    ((host.receiveCode code call).statics code).slot = (host.statics code).slot := by
  cases code with
  | linked unit =>
    show (update host.linked unit _ unit).slot = (host.linked unit).slot
    rw [update_same]
  | image file =>
    have hstatics := Loader.statics_modifyStatics host.loader file
      (fun statics => { statics with received := statics.received ++ [call] }) file
    refine (congrArg (fun statics : Loader.Statics => statics.slot) hstatics).trans ?_
    split <;> rfl

/-- An analyzer that has not been started yet is asked to start, whether its code is mapped or
not. -/
theorem entryVisit_asked {setup : Setup} {host : Host} {code : Code} {analyzer : Analyzer}
    (hprogram : setup.program code = .analyzer analyzer) (hslot : (host.statics code).slot = none)
    (raw : RawArguments) :
    (entryVisit setup host code (.startup raw)).notes.filterMap (Observation.request? code) =
      [.start raw.config] := by
  let memory := ((host.receiveCode code (.startup raw)).statics code).toMemory
  have hempty : memory.slot = none := (slot_receiveCode host code (.startup raw)).trans hslot
  have hnotes : (entryVisit setup host code (.startup raw)).notes =
      (analyzer.startupEntry memory raw).notes.map (noteObservation code) := by
    unfold entryVisit
    simp only [hprogram]
    rfl
  rw [hnotes, filterMap_noteObservation]
  refine (Analyzer.startupEntry_requests raw).trans ?_
  rw [hempty]
  rfl

/-- Starting a native engine shows one call of its entry point, with the arguments as they are. -/
theorem output_engineStartup (setup : Setup) (depth : Nat) (native : Engine.Native)
    (args : Arguments) (host : Host) :
    let visit := entryVisit setup host native.code (.startup args.raw)
    ((engineStartup setup (calledBack setup depth) (.native native) args).run host).2.output =
        host.output ++ .called (.code native.code) (.startup args.raw)
          (visit.callBack (calledBack setup depth)).1 (visit.answer (calledBack setup depth)) ::
            visit.notes ∧
      Quiet visit.notes := by
  intro visit
  have hfrom : visit.From host := entryVisit_from host native.code (.startup args.raw)
  obtain ⟨hparty, hcall⟩ := entryVisit_party setup host native.code (.startup args.raw)
  have htracks : Tracks setup (calledBack setup depth) := calledBack_tracks depth
  have houtput := (Visit.ending_tracks htracks hfrom).1
  rw [Visit.contact, hparty, hcall] at houtput
  refine ⟨?_, hfrom.notes⟩
  rw [engineStartup_run]
  exact houtput

/-- Everything that holds of options on their way to an engine. -/
structure HandedOver (options : Options) : Prop where
  /-- The arguments can be made unless a setting has a NUL. -/
  made : (∃ args, options.arguments = .ok args) ↔
    ∀ setting, '\x00' ∉ (options.text setting).toList
  /-- The fault is the first NUL of the first setting that has one. -/
  fault : ∀ fault, options.arguments = .error fault ↔ options.FirstFault fault
  /-- Its message tells it from every other fault. -/
  message : ∀ fault other : NulFault, fault.message = other.message → fault = other
  /-- Starting a native engine calls its entry point once, with arguments that read as the
  options. -/
  received : ∀ args, options.arguments = .ok args →
    ∀ (setup : Setup) (depth : Nat) (native : Engine.Native) (host : Host),
      ∃ raw nested answer notes,
        ((engineStartup setup (calledBack setup depth) (.native native) args).run host).2.output =
          host.output ++ .called (.code native.code) (.startup raw) nested answer :: notes ∧
        Quiet notes ∧ raw.config = options.config ∧
        -- an analyzer that has not been started yet is asked to start with the options
        ∀ analyzer, setup.program native.code = .analyzer analyzer →
          (host.statics native.code).slot = none →
            notes.filterMap (Observation.request? native.code) = [.start options.config]
  /-- Options that are read alike are the same, but for an unset backend port. -/
  told : ∀ (other : Options) (args args' : Arguments),
    options.arguments = .ok args → other.arguments = .ok args' →
    (args.raw.config = args'.raw.config ↔ options.settled = other.settled)

/-- **Options reach an engine as they are.** -/
theorem handedOver (options : Options) : HandedOver options where
  made := Options.exists_arguments_iff
  fault _ := Options.arguments_eq_error_iff
  message _ _ := NulFault.message_injective
  received := by
    intro args hargs setup depth native host
    have hcarried := Options.carried_of_arguments hargs
    obtain ⟨houtput, hquiet⟩ := output_engineStartup setup depth native args host
    refine ⟨args.raw, _, _, _, houtput, hquiet, hcarried.config_raw, ?_⟩
    intro analyzer hprogram hslot
    rw [← hcarried.config_raw]
    exact entryVisit_asked hprogram hslot args.raw
  told := by
    intro other args args' hargs hargs'
    rw [(Options.carried_of_arguments hargs).config_raw,
      (Options.carried_of_arguments hargs').config_raw]
    exact Options.config_eq_config_iff

/-- Options with letters beyond ASCII, without an encryption key and without a backend port. -/
def letteredOptions : Options where
  url := "https://bücher.example"
  apiKey := "k€🔑"

/-- Every letter reaches the analyzer, and the port that is not set does so as zero. -/
theorem letteredOptions_handedOver :
    ∃ args raw nested answer notes, letteredOptions.arguments = .ok args ∧
      ((engineStartup keyed (calledBack keyed 0) (.native { code := .linked "unit" }) args).run
        oneLibrary).2.output =
          .called (.code (.linked "unit")) (.startup raw) nested answer :: notes ∧
      notes.filterMap (Observation.request? (.linked "unit")) =
        [.start ⟨"https://bücher.example", "k€🔑", 0, 8081, "info", ""⟩] := by
  obtain ⟨args, hargs⟩ := (handedOver letteredOptions).made.mpr fun setting => by
    cases setting <;> decide
  obtain ⟨raw, nested, answer, notes, houtput, -, -, hasked⟩ :=
    (handedOver letteredOptions).received args hargs keyed 0 { code := .linked "unit" } oneLibrary
  exact ⟨args, raw, nested, answer, notes, hargs, houtput, hasked Scenario.fixture rfl rfl⟩

end Host
end FailOpen
