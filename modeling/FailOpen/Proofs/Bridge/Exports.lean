import FailOpen.Proofs.Course.Mirror
import FailOpen.Proofs.Course.Slots
import FailOpen.Proofs.Text.CString
import FailOpen.Proofs.Timeline.Releases

/-!
# Exported functions are operations of a plain bridge

A run in which hosts use the shared bridge, by its operations or through the exported functions, and
in which engines do the same when they call back, is a run on a bridge that a host has made for
itself, with every exported function replaced by an operation.  `Simulated` says so of a setup: the
calls, the states after every step and the answers are the same, and a startup with a null string
does nothing but disable the bridge.

* `report_mirrored` is the step lemma, for any runs inside the step that mirror each other.
* `calledBack_reflects` is the run lemma, by induction on the depth, and `Reflects.all` draws it out
  over the steps.

An engine that attempts a startup or disables the bridge inside its own startup waits for ever in a
real process.  Here it does not, so nothing has to be assumed about what engines do.
-/

namespace FailOpen
namespace Host

/-! ## Steps -/

section

variable {setup : Setup} {preface : List (Observation Report)} {host mirror : Host}

theorem Step.target?_plain {step : Step} {name : BridgeName} {operation : Operation}
    (htarget : step.target? = some (name, operation)) :
    step.plain.target? = some (name.other, operation) ∧ step.plain.preface = [] ∧
      step.plain.isExportedStart = false := by
  cases step with
  | bridge name' operation' =>
    obtain ⟨rfl, rfl⟩ := Prod.mk.inj (Option.some.inj htarget)
    exact ⟨rfl, rfl, rfl⟩
  | exported function =>
    obtain ⟨rfl, rfl⟩ := Prod.mk.inj (Option.some.inj htarget)
    exact ⟨rfl, rfl, rfl⟩
  | _ => cases htarget

theorem Step.target?_plain_none {step : Step} (htarget : step.target? = none) :
    step.plain.target? = none := by
  cases step with
  | bridge name operation => cases htarget
  | exported function => cases htarget
  | _ => rfl

/-- Nothing is said before a step that is no operation, and nothing after it. -/
theorem Step.preface_of_target? {step : Step} (htarget : step.target? = none) :
    step.preface = [] ∧ step.isExportedStart = false := by
  cases step with
  | exported function => cases htarget
  | _ => exact ⟨rfl, rfl⟩

/-- The result of an operation says the same, whether it was asked for by an exported function or
not. -/
theorem Step.saysAlike_shows {step : Step} {name : BridgeName} {operation : Operation} {b : Bool}
    (htarget : step.target? = some (name, operation))
    (hdisable : ∀ reason, operation = .disable reason → b = false) :
    step.SaysAlike (step.shows b) (step.plain.shows b) := by
  have hbyte : Result.number (byteOfBool b).toNat = .number (if b then 1 else 0) := by
    cases b <;> rfl
  cases step with
  | bridge name' operation' => rfl
  | exported function =>
    obtain ⟨-, rfl⟩ := Prod.mk.inj (Option.some.inj htarget)
    cases function with
    | startup raw =>
      cases hraw : raw.arguments? with
      | none =>
        have hoperation : (Exported.startup raw).operation = .disable .invalidArguments := by
          simp only [Exported.operation, hraw]
        obtain rfl := hdisable _ hoperation
        simp only [SaysAlike, hraw]
        refine ⟨rfl, ?_⟩
        show (Exported.startup raw).operation.shows false = .done
        rw [hoperation]
        rfl
      | some args =>
        have hoperation : (Exported.startup raw).operation = .startInstalled args := by
          simp only [Exported.operation, hraw]
        simp only [SaysAlike, hraw]
        refine ⟨b, hbyte, ?_⟩
        show (Exported.startup raw).operation.shows b = .flag b
        rw [hoperation]
        rfl
    | block exchange => exact ⟨b, hbyte, rfl⟩
    | ingest trace => exact ⟨rfl, rfl⟩
    | cleanup => exact ⟨rfl, b, rfl⟩
  | _ => cases htarget

variable (setup) in
theorem Mirrors.directVisit (h : Mirrors preface host mirror) (step : Step) :
    Option.Rel (Visit.Mirrors preface) (step.directVisit? setup host)
      (step.plain.directVisit? setup.plain mirror) := by
  cases step with
  | engine name request =>
    show Option.Rel _ (request.demand?.bind (Host.visitOf setup host (setup.engine name)))
      (request.demand?.bind (Host.visitOf setup.plain mirror (setup.engine name)))
    cases request.demand? with
    | none => exact .none
    | some demand => exact h.visitOf (setup.engine name) demand
  | entry name call =>
    unfold Step.plain Step.directVisit?
    simp only [show setup.plain.engine name = setup.engine name from rfl]
    cases setup.engine name with
    | native native => exact .some (h.entryVisit native.code call)
    | _ => exact .none
  | _ => exact .none

variable (setup) in
/-- A step that is no operation reads the same, and stores the same. -/
theorem Mirrors.reads (h : Mirrors preface host mirror) {step : Step}
    (htarget : step.target? = none) :
    step.plain.reads setup.plain mirror = step.reads setup host ∧
      step.plain.storing = step.storing := by
  cases step with
  | display name =>
    refine ⟨?_, rfl⟩
    show Result.text (mirror.bridge name.other).shown = .text (host.bridge name).shown
    rw [h.bridge name]
  | isMapped file =>
    refine ⟨?_, rfl⟩
    show Result.flag (mirror.loader.isMapped file) = .flag (host.loader.isMapped file)
    rw [h.loader]
  | ingestedByUnits units =>
    refine ⟨?_, rfl⟩
    simp only [Step.plain, Step.reads, h.linked]
  | ingestedByFile file =>
    refine ⟨?_, rfl⟩
    simp only [Step.plain, Step.reads, h.loader]
  | bridge name operation => cases htarget
  | exported function => cases htarget
  | engine name request => cases request <;> exact ⟨rfl, rfl⟩
  | _ => exact ⟨rfl, rfl⟩

theorem Step.relays_plain {step : Step} (htarget : step.target? = none) (answer : Answer) :
    step.plain.relays answer = step.relays answer := by
  cases step with
  | bridge name operation => cases htarget
  | exported function => cases htarget
  | _ => rfl

theorem Step.saysAlike_of_target? {step : Step} (htarget : step.target? = none) (result : Result) :
    step.SaysAlike result result := by
  cases step with
  | exported function => cases htarget
  | _ => rfl

end

/-! ## Runs inside a step -/

/-- A plain step is performed by the second runner as the step itself is by the first, or neither is
performed. -/
def Reflects (run run' : Runner) : Prop :=
  ∀ (step : Step) (preface : List (Observation Report)) (host mirror : Host),
    Mirrors preface host mirror →
      let ran := (run step).run host
      let plain := (run' step.plain).run mirror
      Option.Rel (fun report report' => report.step = step ∧ report.Mirrors report') ran.1 plain.1 ∧
        Mirrors preface ran.2 plain.2

section

variable {setup : Setup} {run run' : Runner} {preface : List (Observation Report)}
  {host mirror : Host}

theorem Report.Mirrors.result_eq {report plain : Report} (h : report.Mirrors plain) :
    report.step.spells plain.result = report.result := by
  obtain ⟨-, hresult, -⟩ := h
  exact hresult.spells_eq

/-- The second runner tells plain code what the first tells the code itself. -/
theorem Reflects.results (hrun : Reflects run run') (h : Mirrors preface host mirror) (step : Step) :
    (((run' step.plain).run mirror).1.map Report.result).map step.spells =
      ((run step).run host).1.map Report.result := by
  obtain ⟨hreports, -⟩ := hrun step preface host mirror h
  revert hreports
  cases ((run step).run host).1 with
  | none =>
    intro hreports
    rw [eq_none_of_rel_none hreports]
    rfl
  | some report =>
    intro hreports
    obtain ⟨plain, hplain, rfl, hmirrors⟩ := exists_of_rel_some hreports
    rw [hplain]
    exact congrArg some hmirrors.result_eq

/-- Plain code makes the plain steps, and comes to the same answer. -/
theorem Reflects.routine {α : Type} (hrun : Reflects run run') (routine : Routine α)
    (h : Mirrors preface host mirror) :
    routine.plain.steps run' mirror = (routine.steps run host).map Step.plain ∧
      routine.plain.answered run' mirror = routine.answered run host := by
  induction routine generalizing host mirror with
  | answer a => exact ⟨rfl, rfl⟩
  | step first next ih =>
    obtain ⟨hsteps, hanswer⟩ :=
      ih (((run first).run host).1.map Report.result) (hrun first preface host mirror h).2
    simp only [Routine.plain, Routine.steps, Routine.answered, List.map_cons,
      hrun.results h first, hsteps, hanswer]
    trivial

theorem forall₂_toList {α β : Type} {R S : α → β → Prop} {a : Option α} {b : Option β}
    (h : Option.Rel R a b) (hweaker : ∀ a b, R a b → S a b) :
    List.Forall₂ S a.toList b.toList := by
  cases h with
  | none => exact .nil
  | some hrel => exact .cons (hweaker _ _ hrel) .nil

/-- Steps that are made one after the other. -/
theorem Reflects.all (hrun : Reflects run run') (steps : List Step)
    (h : Mirrors preface host mirror) :
    let ran := (run.all steps).run host
    let plain := (run'.all (steps.map Step.plain)).run mirror
    List.Forall₂ Report.Mirrors ran.1 plain.1 ∧ Mirrors preface ran.2 plain.2 := by
  induction steps generalizing host mirror with
  | nil => exact ⟨.nil, h⟩
  | cons step steps ih =>
    obtain ⟨hfirst, hafter⟩ := hrun step preface host mirror h
    obtain ⟨hothers, hlast⟩ := ih hafter
    exact ⟨List.rel_append (forall₂_toList hfirst fun _ _ hboth => hboth.2) hothers, hlast⟩

/-- The same call ends in the same way in the mirror, with the same answer. -/
theorem Visit.Mirrors.ending (hrun : Reflects run run') {visit visit' : Visit}
    (h : visit.Mirrors preface visit') :
    visit'.answer run' = visit.answer run ∧
      Host.Mirrors preface (visit.ending run) (visit'.ending run') := by
  obtain ⟨party, call, reaction, notes, inside⟩ := visit'
  obtain ⟨rfl, rfl, rfl, rfl, hquiet, hhost⟩ := h
  dsimp only at hhost
  unfold Visit.ending Visit.observation Visit.callBack Visit.callbacks Visit.answer
  dsimp only
  cases visit.reaction with
  | answer a => exact ⟨rfl, hhost.observe (.cons (.called .none) hquiet.mirrors)⟩
  | callBack routine =>
    obtain ⟨hsteps, hanswer⟩ := hrun.routine routine hhost
    obtain ⟨hreports, hafter⟩ := hrun.all (routine.steps run visit.host) hhost
    simp only [Reaction.plain, Reaction.callbacks, Reaction.answered, hsteps, hanswer]
    exact ⟨trivial, hafter.observe (.cons (.called (.some hreports)) hquiet.mirrors)⟩

/-- An operation ends in the same way in the mirror. -/
theorem Course.Mirrors.finish (hrun : Reflects run run') {course course' : Course}
    (h : course.Mirrors preface course') :
    (course'.finish run').1 = (course.finish run).1 ∧
      Host.Mirrors preface (course.finish run).2 (course'.finish run').2 := by
  cases h with
  | pass hnext => exact ⟨rfl, hnext⟩
  | replace hstart hnotes => exact ⟨rfl, (hstart.replacing _ _).quietly hnotes⟩
  | @reach frame visit visit' hvisit =>
    obtain ⟨hanswer, hending⟩ := hvisit.ending hrun
    simp only [Course.finish, hanswer, frame.yields_mirror]
    exact ⟨trivial, hending.leave frame (visit.answer run)⟩

/-- A step begins with nothing but its preface. -/
theorem Mirrors.beginning (h : Mirrors preface host mirror) (next : List (Observation Report)) :
    Mirrors next (host.beginning.observe next) mirror.beginning :=
  ⟨h.own, h.shared, h.loader, h.received, h.linked, h.exit, [], (List.append_nil next).symm, .nil⟩

/-- What a step and its plain counterpart make of the beginning of the step: the same results, and
processes that mirror each other behind the preface, until the step sees to the cleanup at exit. -/
def Step.Alike (setup : Setup) (run run' : Runner) (host mirror : Host) (step : Step) : Prop :=
  let ran := (perform setup run step).run host.beginning
  let plain := (perform setup.plain run' step.plain).run mirror.beginning
  step.SaysAlike ran.1 plain.1 ∧
    ∃ after, ran.2 = after.closing setup step ∧ Mirrors step.preface after plain.2

/-- A step that is an operation ends in the same way in the mirror. -/
theorem Mirrors.operated (hrun : Reflects run run') (h : Mirrors preface host mirror) {step : Step}
    {name : BridgeName} {operation : Operation} (htarget : step.target? = some (name, operation)) :
    step.Alike setup run run' host mirror := by
  obtain ⟨htarget', hpreface', hstart'⟩ := Step.target?_plain htarget
  obtain ⟨course, hgoes, hperform⟩ := exists_goes_of_target setup htarget host.beginning
  obtain ⟨course', hgoes', hperform'⟩ :=
    exists_goes_of_target setup.plain htarget' mirror.beginning
  -- the course in the mirror is the mirrored one, since there is no other
  obtain ⟨mirrored, hmirrored, hcourses⟩ := hgoes.mirrored (h.beginning step.preface)
  rw [hpreface', observe_nil] at hgoes'
  obtain rfl := hgoes'.unique hmirrored
  obtain ⟨hyields, hafter⟩ := hcourses.finish hrun
  rw [Step.Alike, hperform run, hperform' run', hyields, closing_of_not_start setup.plain hstart']
  refine ⟨Step.saysAlike_shows htarget ?_, _, rfl, hafter⟩
  rintro reason rfl
  rw [hgoes.unique (.disables rfl)]
  rfl

/-- A step that is no operation calls the same code in the mirror, or none. -/
theorem Mirrors.bypassed (hrun : Reflects run run') (h : Mirrors preface host mirror) {step : Step}
    (htarget : step.target? = none) : step.Alike setup run run' host mirror := by
  have hbeginning : Mirrors [] host.beginning mirror.beginning := h.beginning []
  have hvisits := hbeginning.directVisit setup step
  obtain ⟨hpreface, hstart⟩ := Step.preface_of_target? htarget
  have hopen : ∀ after : Host, after = after.closing setup step := fun after =>
    (closing_of_not_start setup hstart after).symm
  rw [Step.Alike, hpreface]
  cases hvisit : step.directVisit? setup host.beginning with
  | some visit =>
    rw [hvisit] at hvisits
    obtain ⟨visit', hvisit', hmirrored⟩ := exists_of_rel_some hvisits
    obtain ⟨hanswer, hending⟩ := hmirrored.ending hrun
    rw [perform_directVisit setup run hvisit, perform_directVisit setup.plain run' hvisit',
      Step.relays_plain htarget, hanswer]
    exact ⟨Step.saysAlike_of_target? htarget _, _, hopen _, hending⟩
  | none =>
    rw [hvisit] at hvisits
    have hvisit' : step.plain.directVisit? setup.plain mirror.beginning = none :=
      eq_none_of_rel_none hvisits
    obtain ⟨hreads, hstoring⟩ := hbeginning.reads setup htarget
    rw [perform_aside setup run htarget hvisit,
      perform_aside setup.plain run' (Step.target?_plain_none htarget) hvisit', hreads, hstoring,
      hbeginning.loader]
    exact ⟨Step.saysAlike_of_target? htarget _, _, hopen _, hbeginning.withDisk _⟩

variable (setup) in
/-- Every step ends in the same way in the mirror. -/
theorem Mirrors.performed (hrun : Reflects run run') (h : Mirrors preface host mirror)
    (step : Step) : step.Alike setup run run' host mirror := by
  cases htarget : step.target? with
  | some target => exact h.operated hrun htarget
  | none => exact h.bypassed hrun htarget

variable (setup) in
/-- The step lemma: a step and its plain counterpart show the same, and leave processes behind that
mirror each other. -/
theorem report_mirrored (hrun : Reflects run run') (h : Mirrors preface host mirror) (step : Step) :
    let ran := (report setup run step).run host
    let plain := (report setup.plain run' step.plain).run mirror
    ran.1.Mirrors plain.1 ∧ Mirrors preface ran.2 plain.2 := by
  intro ran plain
  obtain ⟨hresult, after, hran, hafter⟩ := h.performed setup hrun step
  obtain ⟨output, houtput, hmirrored⟩ := hafter.output
  have hbridge : ∀ name, ((perform setup run step).run host.beginning).2.bridge name =
      after.bridge name := by
    intro name
    rw [hran, bridge_closing]
  have haround : ((perform setup run step).run host.beginning).2.output =
      step.preface ++ output ++ (exitEvent? setup step after).toList.map .logged := by
    rw [hran, output_closing, houtput]
  have hexit : ∀ event ∈ exitEvent? setup step after, step.isExportedStart ∧ event.isExit :=
    fun event hevent => ⟨(of_exitEvent? hevent).1, (of_exitEvent? hevent).2.1⟩
  refine ⟨.mk rfl hresult haround hexit hmirrored (hafter.own.trans (hbridge .shared).symm)
    (hafter.shared.trans (hbridge .own).symm), ?_⟩
  have hleft : ran.2 = { after.closing setup step with output := host.output } :=
    congrArg (fun left : Host => { left with output := host.output }) hran
  obtain ⟨cleanup, failures, hclosing⟩ := closing_cases setup step after
  rw [hleft, hclosing]
  exact ⟨hafter.own, hafter.shared, hafter.loader, hafter.received, hafter.linked, hafter.exit,
    h.output⟩

end

/-- The run lemma: every step and its plain counterpart mirror each other, however deep the callbacks
are performed. -/
theorem calledBack_reflects (setup : Setup) (depth : Nat) :
    Reflects (calledBack setup depth) (calledBack setup.plain depth) := by
  induction depth with
  | zero => exact fun step preface host mirror h => ⟨.none, h⟩
  | succ depth ih =>
    intro step preface host mirror h
    obtain ⟨hmirrors, hafter⟩ := report_mirrored setup ih h step
    exact ⟨.some ⟨rfl, hmirrors⟩, hafter⟩

/-! ## A startup with a null string -/

/-- What happens to a process by a startup with a null string: the shared bridge is disabled,
whatever it was before, and everything that its state held is let go. -/
structure NullStartup (host : Host) (ran : Report × Host) : Prop where
  /-- No engine and no entry point is called. -/
  contacts : ran.1.contacts = []
  /-- The answer is the byte zero. -/
  result : ran.1.result = .number 0
  state : ran.1.shared = .disabled .invalidArguments none ∧ ran.1.own = host.own
  process : ran.2 =
    { host.replacing .shared (.disabled .invalidArguments none) with output := host.output }
  /-- Nothing is loaded, and nothing that was not mapped is mapped afterwards. -/
  loads : ran.2.loader.loads = host.loader.loads
  mapped : ∀ file, ran.2.loader.isMapped file → host.loader.isMapped file

/-- What has been observed plays no part in replacing a state. -/
theorem replacing_withOutput (host : Host) (output : List (Observation Report)) (name : BridgeName)
    (next : Bridge.State) :
    ({ host with output } : Host).replacing name next =
      { host.replacing name next with output } := by
  unfold replacing
  rw [bridge_withOutput]
  cases (host.bridge name).engine.module? <;> cases (host.bridge name).module <;> cases name <;> rfl

section

variable {setup : Setup} {run : Runner} {raw : Startup.RawArguments}

variable (setup run) in
/-- All that is seen of a startup with a null string are lines for operators. -/
theorem perform_nullStartup (hnull : raw.hasNull) (host : Host) :
    ∃ notes, Quiet notes ∧
      (perform setup run (.exported (.startup raw))).run host.beginning =
        (.number 0, { host.replacing .shared (.disabled .invalidArguments none) with
          output := notes }) := by
  have hraw : raw.arguments? = none := by
    rw [← Option.isNone_iff_eq_none, raw.isNone_arguments?, hnull]
  have hstart : (Step.exported (.startup raw)).isExportedStart = false := by
    simp only [Step.isExportedStart, hraw, Option.isSome_none]
  have htarget : (Step.exported (.startup raw)).target? =
      some (.shared, .disable .invalidArguments) := by
    simp only [Step.target?, Exported.operation, hraw]
  obtain ⟨course, hgoes, hperform⟩ := exists_goes_of_target setup htarget host.beginning
  obtain rfl := hgoes.unique (.disables rfl)
  refine ⟨_, (quiet_preface (.exported (.startup raw))).append
    (quiet_logged (.disabled .invalidArguments)), ?_⟩
  have hobserved : ∀ notes, host.beginning.observe notes = { host with output := notes } := by
    intro notes
    rw [observe, beginning, List.nil_append]
  rw [hperform run, closing_of_not_start setup hstart, Course.finish, observe_nil, observe_observe,
    hobserved, replacing_withOutput]
  rfl

theorem nullStartup_of_hasNull (hnull : raw.hasNull) (host : Host) :
    NullStartup host ((report setup run (.exported (.startup raw))).run host) := by
  obtain ⟨notes, hquiet, hperformed⟩ := perform_nullStartup setup run hnull host
  have hran : (report setup run (.exported (.startup raw))).run host =
      let did := (perform setup run (.exported (.startup raw))).run host.beginning
      ({ step := .exported (.startup raw), result := did.1, output := did.2.output,
         own := did.2.own, shared := did.2.shared }, { did.2 with output := host.output }) := rfl
  have hbridge := bridge_replacing host .shared (.disabled .invalidArguments none)
  rw [hran, hperformed]
  exact {
    contacts := hquiet.carries.contacts
    result := rfl
    state := ⟨hbridge .shared, hbridge .own⟩
    process := rfl
    loads := loads_replacing host .shared _
    mapped := by
      intro file hmapped
      have halive :
          (host.replacing .shared (.disabled .invalidArguments none)).Alive (.image file) := hmapped
      exact (statics_replacing halive).1 }

end

/-! ## The simulation -/

/-- The process with its bridges exchanged, before anything is observed and before anything is seen
to at exit. -/
def exchanged (host : Host) : Host :=
  { host with own := host.shared, shared := host.own, exitCleanup := false, exitFailures := 0,
              output := [] }

theorem Mirrors.eq_exchanged {preface : List (Observation Report)} {host mirror : Host}
    (h : Mirrors preface host mirror) (houtput : mirror.output = []) : mirror = host.exchanged := by
  obtain ⟨own, shared, loader, received, linked, cleanup, failures, output⟩ := mirror
  obtain ⟨rfl, rfl, rfl, rfl, rfl, ⟨hcleanup, hfailures⟩, -⟩ := h
  dsimp only at houtput hcleanup hfailures
  rw [houtput, hcleanup, hfailures]
  rfl

/-- The exported functions do what the operations of a plain bridge do. -/
structure Simulated (setup : Setup) : Prop where
  /-- Every run shows the same as its plain counterpart, and leaves the same process behind. -/
  runs : ∀ (depth : Nat) (steps : List Step) (host : Host),
    let ran := (runSteps setup depth steps).run host
    let plain := (runSteps setup.plain depth (steps.map Step.plain)).run host.exchanged
    List.Forall₂ Report.Mirrors ran.1 plain.1 ∧ plain.2 = ran.2.exchanged
  /-- A startup with four strings stands for loading the library at the install path, with the bytes
  before the first NUL of each string, whatever they are, and with the same ports. -/
  startup : ∀ (url apiKey logLevel encryptionKey : Buffer) (backendPort collectorPort : UInt16),
    ∃ args : Startup.Arguments,
      (Step.exported (.startup ⟨some url, some apiKey, backendPort, collectorPort, some logLevel,
        some encryptionKey⟩)).plain = .bridge .own (.startInstalled args) ∧
      url.Shows args.url.bytes ∧ apiKey.Shows args.apiKey.bytes ∧
      args.backendPort = backendPort ∧ args.collectorPort = collectorPort ∧
      logLevel.Shows args.logLevel.bytes ∧ encryptionKey.Shows args.encryptionKey.bytes
  /-- A startup with a null string stands for a disabling, -/
  null : ∀ raw : Startup.RawArguments,
    raw.url = none ∨ raw.apiKey = none ∨ raw.logLevel = none ∨ raw.encryptionKey = none →
      (Step.exported (.startup raw)).plain = .bridge .own (.disable .invalidArguments)
  /-- and it does nothing else. -/
  nullStartup : ∀ raw : Startup.RawArguments,
    raw.url = none ∨ raw.apiKey = none ∨ raw.logLevel = none ∨ raw.encryptionKey = none →
      ∀ (depth : Nat) (host : Host),
        NullStartup host
          ((report setup (calledBack setup depth) (.exported (.startup raw))).run host)

/-- **The exported functions are the operations of a plain bridge.** -/
theorem exports_simulated (setup : Setup) : Simulated setup where
  runs := by
    intro depth steps host ran plain
    have hexchanged : Mirrors host.output host host.exchanged :=
      ⟨rfl, rfl, rfl, rfl, rfl, ⟨rfl, rfl⟩, [], (List.append_nil _).symm, .nil⟩
    obtain ⟨hreports, hafter⟩ := (calledBack_reflects setup (depth + 1)).all steps hexchanged
    rw [all_calledBack_succ, all_calledBack_succ] at hreports hafter
    refine ⟨hreports, hafter.eq_exchanged ?_⟩
    -- runs leave the output of the process as it was, so the mirror has none
    obtain ⟨output, houtput, hmirrored⟩ := hafter.output
    rw [(runSteps_tracks depth steps host).1, List.self_eq_append_right] at houtput
    subst houtput
    exact List.forall₂_nil_left_iff.mp hmirrored
  startup url apiKey logLevel encryptionKey backendPort collectorPort :=
    have hshows (buffer : Buffer) : buffer.Shows (CString.ofBuffer buffer).bytes :=
      Buffer.shows_iff.mpr rfl
    ⟨_, rfl, hshows url, hshows apiKey, rfl, rfl, hshows logLevel, hshows encryptionKey⟩
  null := by
    intro raw hnull
    have hraw : raw.arguments? = none := by
      rw [← Option.isNone_iff_eq_none, raw.isNone_arguments?, raw.hasNull_iff.mpr hnull]
    simp only [Step.plain, Exported.operation, hraw]
  nullStartup raw hnull _ host := nullStartup_of_hasNull (raw.hasNull_iff.mpr hnull) host

/-- Every file is a library that starts, and blocks everything. -/
def blocking : Setup where
  library _ := libraryOf
    { startup := fun _ _ => .answer 1
      block := fun _ _ => .answer 1
      ingest := fun _ _ => .answer () }

/-- A process with a library at the install path, before the library is loaded. -/
def installedHost : Host where
  loader := { disk := {
    stored := fun location =>
      if location = Loader.installLocation then some (.library "library") else some .directory } }

/-- The process after an exported startup with four empty strings. -/
def startedHost : Host :=
  ((runSteps blocking 0 [.exported (.startup ⟨some [], some [], 0, 0, some [], some []⟩)]).run
    installedHost).2

/-- The engine in the library has been started, and a null string stops it without a call. -/
theorem startedHost_stopped :
    startedHost.shared.status = .initialized ∧ startedHost.loader.isMapped "library" ∧
      let ran := (report blocking (calledBack blocking 0) (.exported (.startup {}))).run startedHost
      ran.1.contacts = [] ∧ ran.1.result = .number 0 ∧
        ran.1.shared = .disabled .invalidArguments none ∧
          ran.2.loader.isMapped "library" = false := by
  have hstopped := (exports_simulated blocking).nullStartup {} (.inl rfl) 0 startedHost
  refine ⟨by decide +kernel, by decide +kernel, hstopped.contacts, hstopped.result,
    hstopped.state.1, ?_⟩
  rw [hstopped.process]
  decide +kernel

end Host
end FailOpen
