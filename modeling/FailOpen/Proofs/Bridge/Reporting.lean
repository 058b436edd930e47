import FailOpen.Proofs.Timeline.Messages
import FailOpen.Proofs.Timeline.Requests

/-!
# What is reported, and how often

Operators are told of a failure once, and in the same words as the log.  A line is printed for each
attempt that could not load a library or lacks an entry point of it, and for each startup with a null
argument; nothing else prints anything.  The log has exactly one outcome for each attempt, and it is
the outcome that the attempt has published.

* `Told` says what an operation has to say itself, given its end.
* `Goes.writes` is the step: each way of an operation writes before and after its call what is told
  of it, with lines and warnings in pairs.
* `reported_of_run` draws the conclusions for all steps of a run, those inside calls included.

What analyzers log is left out, and so is what the steps inside a call say in the call: it is told
of those steps.
-/

namespace FailOpen

/-! ## Failures and outcomes -/

namespace Bridge

/-- Whether no engine was found: nothing could be loaded, or an entry point was missing. -/
def Status.isUnavailable : Status → Bool
  | .disabled .loadFailed | .disabled (.missingEntryPoint _) => true
  | _ => false

/-- The message with which an attempt ends, by the status that it publishes. -/
def Status.outcome? : Status → Option String
  | .initialized => some "Engine initialized"
  | .disabled .loadFailed | .disabled (.missingEntryPoint _) => some "Engine unavailable"
  | .disabled .startupRejected => some "Engine startup rejected"
  | .disabled .startupPanicked => some "Engine panicked during startup"
  | .disabled .invalidArguments | .unloaded => none

/-- Whether an event says how an attempt has ended. -/
def Event.isOutcome (event : Event) : Bool :=
  ["Engine initialized", "Engine unavailable", "Engine startup rejected",
    "Engine panicked during startup"].contains event.entry.message

end Bridge

namespace Host

/-- Whether a step is a startup with a null argument. -/
def Step.passesNull : Step → Bool
  | .exported (.startup raw) => raw.hasNull
  | _ => false

/-- Whether a step is an attempt that has found no engine. -/
def Report.isUnavailable (report : Report) : Bool :=
  match report.step.target? with
  | some (name, operation) => operation.isAttempt && (report.state name).status.isUnavailable
  | none => false

/-- The events of a bridge that a step has logged itself. -/
def Report.events (report : Report) : List Bridge.Event :=
  report.said.filterMap Message.event?

/-- The lines that a step has printed itself. -/
def Report.lines (report : Report) : List String :=
  report.said.filterMap Message.line?

/-- How a decision was taken, in the call that was made for it.  The inert engine blocks nothing. -/
def decisionOf (contact : Option Contact) : Outcome Bool :=
  contact.elim (.returned false) fun contact => contact.answer.decision

/-- How a trace was taken, in the call that was made for it. -/
def ingestionOf (contact : Option Contact) : Outcome Unit :=
  contact.elim (.returned ()) fun contact => contact.answer.ingestion

/-! ## What an operation says -/

/-- What is said of a library that was loaded. -/
def announced : Option String → List Message
  | none => []
  | some path => [.event (.libraryMapped path), .event (.libraryLoaded path)]

/-- What an operation says itself, by the state in which it leaves its bridge, the call that it has
made, and its truth value. -/
inductive Told (state : Bridge.State) (contact : Option Contact) :
    Operation → Bool → List Message → Prop
  | unavailable {operation} (loaded : Option String) (detail : String)
      (hattempt : operation.isAttempt) (hstatus : state.status.isUnavailable) :
      Told state contact operation false (announced loaded ++ diagnosed detail)
  | concluded {operation event b} (loaded : Option String) (hattempt : operation.isAttempt)
      (hstatus : state.status.isUnavailable = false)
      (hmessage : state.status.outcome? = some event.entry.message)
      (hlevel : event.entry.level = if b then .info else .warn)
      (hinitialized : b = state.isInitialized) :
      Told state contact operation b (announced loaded ++ [.event event])
  | disabled (reason : Bridge.Reason) :
      Told state contact (.disable reason) false [.event (.disabled reason)]
  | decided {exchange block} (engine : String) (hdecision : decisionOf contact = .returned block) :
      Told state contact (.decideBlock exchange) block [.event (.decided engine block)]
  | decisionPanicked {exchange} (engine : String) (hdecision : decisionOf contact = .panicked) :
      Told state contact (.decideBlock exchange) false [.event (.decisionPanicked engine)]
  | ingested {trace} (hingestion : ingestionOf contact = .returned ()) :
      Told state contact (.ingest trace) false []
  | ingestPanicked {trace} (engine : String) (hingestion : ingestionOf contact = .panicked) :
      Told state contact (.ingest trace) false [.event (.ingestPanicked engine)]
  | shutDown (held : Bool) :
      Told state contact .shutdown held (if held then [.event .released] else [])

variable {setup : Setup} {run : Runner} {host : Host} {name : BridgeName} {operation : Operation}

/-- What an operation writes when it goes a certain way: everything before or after the one call that
it may make. -/
structure Course.Writes (run : Runner) (host : Host) (name : BridgeName) (operation : Operation)
    (course : Course) (before after : List (Observation Report)) : Prop where
  output : (course.finish run).2.output = host.output ++ before ++
    ((course.contact? run).map Contact.observation).toList ++ after
  quiet : Quiet before ∧ Quiet after
  paired : Paired (saidIn before) ∧ Paired (saidIn after)
  told : Told ((course.finish run).2.bridge name) (course.contact? run) operation
    (course.finish run).1 (saidIn before ++ saidIn after)

theorem paired_singleton {event : Bridge.Event} (h : (Message.event event).detail? = none) :
    Paired [.event event] :=
  .event h .nil

theorem paired_announced (loaded : Option String) : Paired (announced loaded) := by
  cases loaded with
  | none => exact .nil
  | some path => exact .event rfl (.event rfl .nil)

/-- An operation that reaches no code. -/
theorem Course.Writes.of_quiet {course : Course} {output : List (Observation Report)}
    (hcontact : course.contact? run = none)
    (houtput : (course.finish run).2.output = host.output ++ output) (hquiet : Quiet output)
    (hpaired : Paired (saidIn output))
    (htold : Told ((course.finish run).2.bridge name) none operation (course.finish run).1
      (saidIn output)) :
    course.Writes run host name operation output [] where
  output := by rw [houtput, hcontact]; simp
  quiet := ⟨hquiet, .nil⟩
  paired := ⟨hpaired, .nil⟩
  told := by
    rw [hcontact]
    exact (List.append_nil (saidIn output)).symm ▸ htold

/-- An operation that reaches the code of an engine. -/
theorem Course.Writes.of_reach (hrun : Tracks setup run) {start : Host} {engine : Engine}
    {demand : Demand} {frame : Frame} {visit : Visit}
    {before ended : List (Observation Report)}
    (hvisit : visitOf setup start engine demand = some visit)
    (hstart : start.output = host.output ++ before) (hbefore : Quiet before)
    (hpaired : Paired (saidIn before))
    (hleave : ∀ after, (frame.leave (visit.answer run) after).output = after.output ++ ended)
    (hended : Quiet ended) (hpairedEnd : Paired (saidIn ended))
    (htold : Told ((frame.leave (visit.answer run) (visit.ending run)).bridge name)
      (some (visit.contact run)) operation (frame.yields (visit.answer run))
      (saidIn before ++ saidIn ended)) :
    (Course.reach frame visit).Writes run host name operation before (visit.notes ++ ended) := by
  obtain ⟨hfrom, -, -⟩ := visitOf_from hvisit
  obtain ⟨houtput, -, -⟩ := visit.ending_tracks hrun hfrom
  -- what is observed behind the call is not said by the bridge
  have hsaid : saidIn (visit.notes ++ ended) = saidIn ended := by
    rw [saidIn_append, saidIn_visitOf hvisit, List.nil_append]
  refine ⟨?_, ⟨hbefore, hfrom.notes.append hended⟩, ⟨hpaired, ?_⟩, ?_⟩
  · rw [Course.finish, hleave, houtput, hstart]
    simp [Course.contact?]
  · rwa [hsaid]
  · rw [hsaid]
    exact htold

/-! ## Leaving a visit -/

/-- The event with which an attempt ends whose engine has answered. -/
def conclusion (outcome : Outcome Bool) (engine : String) : Bridge.Event :=
  match outcome with
  | .returned true => .initialized engine
  | .returned false => .startupRejected engine
  | .panicked => .startupPanicked engine

theorem Frame.output_leave_attempt (name : BridgeName) (engine : Engine)
    (module : Option Loader.Module) (answer : Answer) (host : Host) :
    ((Frame.attempt name engine module).leave answer host).output =
      host.output ++ [.logged (conclusion answer.startup engine.name)] := by
  unfold leave conclusion
  rcases answer.startup with started | _
  · cases started <;> simp only [output_replacing, output_lettingGo, output_observe]
  · simp only [output_replacing, output_lettingGo, output_observe]

theorem detail?_conclusion (outcome : Outcome Bool) (engine : String) :
    (Message.event (conclusion outcome engine)).detail? = none := by
  rcases outcome with started | _
  · cases started <;> rfl
  · rfl

/-- An attempt whose engine has answered says what it publishes. -/
theorem told_attempt (contact : Option Contact) (loaded : Option String)
    (hattempt : operation.isAttempt) (answer : Answer) (engine : Engine)
    (module : Option Loader.Module) :
    Told (attemptState answer.startup engine module) contact operation answer.accepts
      (announced loaded ++ [.event (conclusion answer.startup engine.name)]) := by
  unfold Answer.accepts
  rcases answer.startup with started | _
  · cases started with
    | true => exact .concluded loaded hattempt rfl rfl rfl rfl
    | false => exact .concluded loaded hattempt rfl rfl rfl rfl
  · exact .concluded loaded hattempt rfl rfl rfl rfl

/-- An attempt that reaches the code of its engine. -/
theorem Course.Writes.of_attempt (hrun : Tracks setup run) {start : Host} {engine : Engine}
    {args : Startup.Arguments} {module : Option Loader.Module} {visit : Visit}
    {before : List (Observation Report)} (loaded : Option String) (hattempt : operation.isAttempt)
    (hvisit : visitOf setup start engine (.startup args) = some visit)
    (hstart : start.output = host.output ++ before) (hbefore : Quiet before)
    (hsaid : saidIn before = announced loaded) :
    (Course.reach (.attempt name engine module) visit).Writes run host name operation before
      (visit.notes ++ [.logged (conclusion (visit.answer run).startup engine.name)]) := by
  refine .of_reach hrun hvisit hstart hbefore (hsaid ▸ paired_announced loaded)
    (fun after => Frame.output_leave_attempt name engine module (visit.answer run) after)
    (quiet_logged _) (paired_singleton (detail?_conclusion _ _)) ?_
  rw [Frame.bridge_leave_attempt, if_pos rfl, hsaid]
  exact told_attempt _ loaded hattempt (visit.answer run) engine module

/-- A demand to the engine of the present state. -/
theorem Course.writes_forwards (hrun : Tracks setup run) {engine : Engine} {demand : Demand}
    {visit : Visit} (hdemand : operation.demand? = some demand)
    (hvisit : visitOf setup (host.holding engine.module?) engine demand = some visit) :
    ∃ after, (Course.reach (frameOf engine demand) visit).Writes run host name operation []
      after := by
  have hwrites : ∀ ended, (∀ after, ((frameOf engine demand).leave (visit.answer run) after).output =
      after.output ++ ended) → Quiet ended → Paired (saidIn ended) →
      (∀ state, Told state (some (visit.contact run)) operation
        ((frameOf engine demand).yields (visit.answer run)) (saidIn ended)) →
      ∃ after, (Course.reach (frameOf engine demand) visit).Writes run host name operation []
        after := fun ended hleave hended hpaired htold =>
    ⟨_, .of_reach hrun hvisit (by simp) .nil .nil hleave hended hpaired (htold _)⟩
  cases operation with
  | decideBlock exchange =>
    obtain rfl := Option.some.inj hdemand
    cases hdecision : (visit.answer run).decision with
    | returned block =>
      refine hwrites [.logged (.decided engine.name block)] (fun after => ?_) (quiet_logged _)
        (paired_singleton rfl) fun state => ?_
      · simp [frameOf, Frame.leave, hdecision]
      · have hyields : (frameOf engine (.block exchange)).yields (visit.answer run) = block := by
          simp [frameOf, Frame.yields, Answer.blocks, hdecision]
        rw [hyields]
        exact .decided engine.name hdecision
    | panicked =>
      refine hwrites [.logged (.decisionPanicked engine.name)] (fun after => ?_) (quiet_logged _)
        (paired_singleton rfl) fun state => ?_
      · simp [frameOf, Frame.leave, hdecision]
      · have hyields : (frameOf engine (.block exchange)).yields (visit.answer run) = false := by
          simp [frameOf, Frame.yields, Answer.blocks, hdecision]
        rw [hyields]
        exact .decisionPanicked engine.name hdecision
  | ingest trace =>
    obtain rfl := Option.some.inj hdemand
    cases hingestion : (visit.answer run).ingestion with
    | returned done =>
      refine hwrites [] (fun after => ?_) .nil .nil fun state => .ingested hingestion
      simp [frameOf, Frame.leave, hingestion]
    | panicked =>
      refine hwrites [.logged (.ingestPanicked engine.name)] (fun after => ?_) (quiet_logged _)
        (paired_singleton rfl) fun state => .ingestPanicked engine.name hingestion
      simp [frameOf, Frame.leave, hingestion]
  | _ => cases hdemand

/-- The step lemma for operations: one case for each way in which an operation can go. -/
theorem Goes.writes (hrun : Tracks setup run) {course : Course}
    (hgoes : Goes setup host name operation course) :
    ∃ before after, course.Writes run host name operation before after := by
  cases hgoes with
  | @loadFails path args fault hloads hload =>
    refine ⟨diagnosis ("Error loading dynamic library: " ++ fault.message), [],
      .of_quiet rfl ?_ (quiet_diagnosis _) (.diagnosed _ .nil) ?_⟩
    · simp [Course.finish]
    · rw [Course.finish, bridge_observe, bridge_replacing, if_pos rfl]
      exact .unavailable none _ (Operation.isAttempt_of_loads? hloads) rfl
  | @lacks path args module loader missing hloads hload hmissing =>
    refine ⟨[.logged (.libraryMapped path), .logged (.libraryLoaded path)] ++
      diagnosis missing.message, [], .of_quiet rfl ?_ ?_ ?_ ?_⟩
    · simp [Course.finish]
    · exact ((quiet_logged _).append (quiet_logged _)).append (quiet_diagnosis _)
    · exact (paired_announced (some path)).append (.diagnosed _ .nil)
    · rw [Course.finish, bridge_observe, bridge_replacing, if_pos rfl]
      exact .unavailable (some path) _ (Operation.isAttempt_of_loads? hloads) rfl
  | @startsLoaded path args module loader visit hloads hload hcomplete hvisit =>
    exact ⟨[.logged (.libraryMapped path), .logged (.libraryLoaded path)], _,
      .of_attempt hrun (some path) (Operation.isAttempt_of_loads? hloads) hvisit
        (by rw [output_holding, output_loaded]) ((quiet_logged _).append (quiet_logged _)) rfl⟩
  | refuses hsupplies =>
    refine ⟨[.logged (.startupRejected Engine.inert.name)], [],
      .of_quiet rfl ?_ (quiet_logged _) (paired_singleton rfl) ?_⟩
    · simp [Course.finish]
    · rw [Course.finish, bridge_observe, bridge_replacing, if_pos rfl]
      exact .concluded none (Operation.isAttempt_of_supplies? hsupplies) rfl rfl rfl rfl
  | startsSupplied hsupplies hvisit =>
    exact ⟨[], _, .of_attempt hrun none (Operation.isAttempt_of_supplies? hsupplies) hvisit
      (by simp) .nil rfl⟩
  | @disables reason hdisable =>
    subst hdisable
    refine ⟨_, [], .of_quiet rfl ?_ (quiet_logged (.disabled reason)) (paired_singleton rfl)
      (.disabled reason)⟩
    simp [Course.finish]
  | @unheard demand hdemand hengine =>
    cases operation with
    | decideBlock exchange =>
      obtain rfl := Option.some.inj hdemand
      exact ⟨_, [], .of_quiet rfl rfl (quiet_logged _) (paired_singleton rfl) (.decided _ rfl)⟩
    | ingest trace =>
      obtain rfl := Option.some.inj hdemand
      exact ⟨[], [], .of_quiet rfl rfl .nil .nil (.ingested rfl)⟩
    | _ => cases hdemand
  | forwards hdemand hengine hvisit => exact ⟨[], Course.writes_forwards hrun hdemand hvisit⟩
  | shutsDown hshutdown =>
    subst hshutdown
    refine ⟨if (host.bridge name).hasModule then [.logged .released] else [], [],
      .of_quiet rfl ?_ ?_ ?_ ?_⟩
    · simp [Course.finish]
    · split
      · exact quiet_logged _
      · exact .nil
    · split
      · exact paired_singleton rfl
      · exact .nil
    · rw [apply_ite saidIn]
      exact .shutDown _

/-! ## Lines and outcomes of an operation -/

theorem Bridge.Status.outcome?_of_isUnavailable {status : Bridge.Status}
    (h : status.isUnavailable) : status.outcome? = some "Engine unavailable" := by
  unfold Bridge.Status.isUnavailable at h
  split at h
  · rfl
  · rfl
  · cases h

theorem Bridge.Status.ne_initialized_of_isUnavailable {status : Bridge.Status}
    (h : status.isUnavailable) : status ≠ .initialized := by
  rintro rfl
  cases h

theorem lines_announced (loaded : Option String) :
    (announced loaded).filterMap Message.line? = [] := by
  cases loaded <;> rfl

/-- The library events are no outcomes. -/
theorem outcomes_announced (loaded : Option String) :
    ((announced loaded).filterMap Message.event?).filter Bridge.Event.isOutcome = [] := by
  cases loaded with
  | none => rfl
  | some path => simp [announced, Message.event?, Bridge.Event.isOutcome, Bridge.Event.entry]

theorem Bridge.Event.isOutcome_of_outcome? {status : Bridge.Status} {event : Bridge.Event}
    (h : status.outcome? = some event.entry.message) : event.isOutcome := by
  unfold Bridge.Event.isOutcome
  unfold Bridge.Status.outcome? at h
  split at h <;> first | cases h | (rw [← Option.some.inj h]; decide)

theorem Bridge.Event.isOutcome_of_isExit {event : Bridge.Event} (h : event.isExit) :
    event.isOutcome = false := by
  unfold Bridge.Event.isExit at h
  split at h
  · decide
  · decide
  · cases h

variable {state : Bridge.State} {contact : Option Contact} {b : Bool} {messages : List Message}

/-- An operation prints one line if it is an attempt that finds no engine, and else none. -/
theorem Told.lines (h : Told state contact operation b messages) :
    (messages.filterMap Message.line?).length =
      if operation.isAttempt && state.status.isUnavailable then 1 else 0 := by
  cases h with
  | unavailable loaded detail hattempt hstatus =>
    rw [List.filterMap_append, lines_announced, hattempt, hstatus]
    rfl
  | concluded loaded hattempt hstatus hmessage hlevel hinitialized =>
    rw [List.filterMap_append, lines_announced, hattempt, hstatus]
    rfl
  | shutDown => cases b <;> rfl
  | _ => rfl

/-- The outcome of an attempt: one event of a level and with a message that go with what it
publishes. -/
structure Concludes (state : Bridge.State) (b : Bool) (event : Bridge.Event) : Prop where
  status : b = true ↔ state.status = .initialized
  message : state.status.outcome? = some event.entry.message
  level : event.entry.level = if b then .info else .warn

/-- An operation says nothing of the cleanup at exit. -/
theorem Told.exits (h : Told state contact operation b messages) :
    (messages.filterMap Message.event?).filter Bridge.Event.isExit = [] := by
  have hannounced : ∀ loaded,
      ((announced loaded).filterMap Message.event?).filter Bridge.Event.isExit = [] := by
    intro loaded
    cases loaded <;> rfl
  cases h with
  | unavailable loaded detail =>
    rw [List.filterMap_append, List.filter_append, hannounced]
    rfl
  | @concluded _ event _ loaded _ _ hmessage =>
    have hevent : event.isExit = false := by
      rw [← Bool.not_eq_true]
      intro hexit
      have houtcome := Bridge.Event.isOutcome_of_outcome? hmessage
      rw [Bridge.Event.isOutcome_of_isExit hexit] at houtcome
      cases houtcome
    rw [List.filterMap_append, List.filter_append, hannounced]
    simp [Message.event?, hevent]
  | shutDown => cases b <;> rfl
  | _ => rfl

theorem Told.outcome (h : Told state contact operation b messages) (hattempt : operation.isAttempt) :
    ∃ event, (messages.filterMap Message.event?).filter Bridge.Event.isOutcome = [event] ∧
      Concludes state b event := by
  cases h with
  | unavailable loaded detail _ hstatus =>
    have hmessage := Bridge.Status.outcome?_of_isUnavailable hstatus
    refine ⟨.unavailable detail, ?_, ?_, hmessage, rfl⟩
    · rw [List.filterMap_append, List.filter_append, outcomes_announced]
      simp [diagnosed, Message.event?, Bridge.Event.isOutcome, Bridge.Event.entry]
    · simpa using Bridge.Status.ne_initialized_of_isUnavailable hstatus
  | @concluded _ event _ loaded _ hstatus hmessage hlevel hinitialized =>
    refine ⟨event, ?_, ?_, hmessage, hlevel⟩
    · rw [List.filterMap_append, List.filter_append, outcomes_announced]
      simp [Message.event?, Bridge.Event.isOutcome_of_outcome? hmessage]
    · rw [hinitialized]
      simp [Bridge.State.isInitialized]
  | _ => cases hattempt

/-! ## Steps -/

/-- What operators are told of a null argument. -/
def nullStartup : List Message :=
  diagnosed "Error starting up: null startup argument"

theorem saidIn_preface (step : Step) :
    saidIn step.preface = if step.passesNull then nullStartup else [] := by
  cases step with
  | exported function =>
    cases function with
    | startup raw =>
      rw [Step.passesNull, ← raw.isNone_arguments?, Step.preface]
      cases raw.arguments? <;> rfl
    | _ => rfl
  | _ => rfl

/-- Nothing is said of the cleanup at exit, or a startup that has left a library with the shared bridge
says one thing of it. -/
def Report.Exits (report : Report) (messages : List Message) : Prop :=
  messages = [] ∨ ∃ event, messages = [.event event] ∧ event.isExit ∧ report.step.isExportedStart ∧
    (report.state .shared).hasModule

/-- What is written in a step: lines and warnings in pairs, and of the step itself what is told of
its operation, and of the cleanup at exit in the end. -/
structure Report.Speaks (report : Report) : Prop where
  paired : Paired report.messages
  operations : ∀ {name operation}, report.step.target? = some (name, operation) →
    ∃ b messages exits, report.said = saidIn report.step.preface ++ messages ++ exits ∧
      report.result = report.step.shows b ∧ report.Exits exits ∧
      Told (report.state name) report.contacts.head? operation b messages
  others : report.step.target? = none → report.said = []

theorem Report.Exits.lines {report : Report} {exits : List Message} (h : report.Exits exits) :
    exits.filterMap Message.line? = [] := by
  rcases h with rfl | ⟨event, rfl, -⟩ <;> rfl

theorem Report.Exits.outcomes {report : Report} {exits : List Message} (h : report.Exits exits) :
    (exits.filterMap Message.event?).filter Bridge.Event.isOutcome = [] := by
  rcases h with rfl | ⟨event, rfl, hexit, -⟩
  · rfl
  · simp [Message.event?, Bridge.Event.isOutcome_of_isExit hexit]

/-- What a step has said itself. -/
structure Report.Tells (report : Report) : Prop where
  /-- A line is printed if no engine was found, or if an argument was null. -/
  prints : report.lines.length =
    (if report.isUnavailable then 1 else 0) + if report.step.passesNull then 1 else 0
  /-- An attempt has one outcome, which is the one that it returns and publishes. -/
  attempts : ∀ {name operation}, report.step.target? = some (name, operation) →
    operation.isAttempt → ∃ b event, report.result = report.step.shows b ∧
      report.events.filter Bridge.Event.isOutcome = [event] ∧
      Concludes (report.state name) b event
  /-- Disabling says why, after what is said of a null argument, and nothing else. -/
  disables : ∀ {name reason}, report.step.target? = some (name, .disable reason) →
    report.said =
      (if report.step.passesNull then nullStartup else []) ++ [.event (.disabled reason)]
  decides : ∀ {name exchange}, report.step.target? = some (name, .decideBlock exchange) →
    ∃ engine, match decisionOf report.contacts.head? with
      | .returned block =>
          report.said = [.event (.decided engine block)] ∧ report.result = report.step.shows block
      | .panicked =>
          report.said = [.event (.decisionPanicked engine)] ∧
            report.result = report.step.shows false
  ingests : ∀ {name trace}, report.step.target? = some (name, .ingest trace) →
    match ingestionOf report.contacts.head? with
      | .returned () => report.said = []
      | .panicked => ∃ engine, report.said = [.event (.ingestPanicked engine)]
  shutsDown : ∀ {name}, report.step.target? = some (name, .shutdown) →
    ∃ held, report.result = report.step.shows held ∧
      report.said = if held then [.event .released] else []
  others : report.step.target? = none → report.said = []
  /-- What has become of the cleanup at exit is said at most once, in the end, and only by an exported
  startup that has left a library with the shared bridge. -/
  exits : report.events.filter Bridge.Event.isExit = [] ∨
    ∃ event, report.events.filter Bridge.Event.isExit = [event] ∧
      report.events.getLast? = some event ∧ report.step.isExportedStart ∧
      (report.state .shared).hasModule

theorem Report.Speaks.exits {report : Report} (h : report.Speaks) :
    report.events.filter Bridge.Event.isExit = [] ∨
      ∃ event, report.events.filter Bridge.Event.isExit = [event] ∧
        report.events.getLast? = some event ∧ report.step.isExportedStart ∧
        (report.state .shared).hasModule := by
  unfold Report.events
  cases htarget : report.step.target? with
  | none =>
    rw [h.others htarget]
    exact .inl rfl
  | some target =>
    obtain ⟨name, operation⟩ := target
    obtain ⟨b, messages, exits, hsaid, -, hexits, htold⟩ := h.operations htarget
    have hpreface :
        ((saidIn report.step.preface).filterMap Message.event?).filter Bridge.Event.isExit = [] := by
      rw [saidIn_preface]
      cases report.step.passesNull <;> rfl
    rw [hsaid, List.filterMap_append, List.filterMap_append, List.filter_append,
      List.filter_append, hpreface, htold.exits]
    rcases hexits with rfl | ⟨event, rfl, hexit, hstart, hmodule⟩
    · exact .inl rfl
    · refine .inr ⟨event, ?_, ?_, hstart, hmodule⟩
      · simp [Message.event?, hexit]
      · simp [Message.event?]

end Host
end FailOpen
