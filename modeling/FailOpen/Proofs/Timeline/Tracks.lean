import FailOpen.Proofs.Timeline.Faithful

/-!
# Every run is reported truthfully

One step lemma, one case for each way in which a step can go, and from it by induction on the steps
and on the depth of nesting:

* `report_tracks`: if the steps of callbacks are reported truthfully, so is a step with such
  callbacks in it.
* `runSteps_tracks`: every run is reported truthfully, whatever its depth.
-/

namespace FailOpen
namespace Host

/-! ## What changes a bridge and the output -/

@[simp] theorem bridge_observe (host : Host) (output : List (Observation Report)) :
    (host.observe output).bridge = host.bridge := by
  funext name
  cases name <;> rfl

@[simp] theorem bridge_lettingGo (host : Host) (module : Option Loader.Module) :
    (host.lettingGo module).bridge = host.bridge := by
  funext name
  cases module <;> cases name <;> rfl

@[simp] theorem bridge_holding (host : Host) (module : Option Loader.Module) :
    (host.holding module).bridge = host.bridge := by
  funext name
  cases module <;> cases name <;> rfl

@[simp] theorem bridge_loaded (host : Host) (path : String) (loader : Loader) :
    (host.loaded path loader).bridge = host.bridge := by
  funext name
  cases name <;> rfl

@[simp] theorem bridge_beginning (host : Host) : host.beginning.bridge = host.bridge := by
  funext name
  cases name <;> rfl

@[simp] theorem bridge_withOutput (host : Host) (output : List (Observation Report)) :
    ({ host with output } : Host).bridge = host.bridge := by
  funext name
  cases name <;> rfl

@[simp] theorem bridge_withDisk (host : Host) (disk : Loader.Disk) :
    (host.withDisk disk).bridge = host.bridge := by
  funext name
  cases name <;> rfl

@[simp] theorem bridge_receiveCustom (host : Host) (name : String) (call : Call) :
    (host.receiveCustom name call).bridge = host.bridge := by
  funext name
  cases name <;> rfl

@[simp] theorem bridge_modifyStatics (host : Host) (code : Code)
    (f : Loader.Statics → Loader.Statics) : (host.modifyStatics code f).bridge = host.bridge := by
  funext name
  cases code <;> cases name <;> rfl

@[simp] theorem bridge_receiveCode (host : Host) (code : Code) (call : Call) :
    (host.receiveCode code call).bridge = host.bridge :=
  bridge_modifyStatics host code _

theorem bridge_setBridge (host : Host) (name : BridgeName) (next : Bridge.State)
    (other : BridgeName) :
    (host.setBridge name next).bridge other = if name = other then next else host.bridge other := by
  cases name <;> cases other <;> rfl

theorem bridge_replacing (host : Host) (name : BridgeName) (next : Bridge.State)
    (other : BridgeName) :
    (host.replacing name next).bridge other = if name = other then next else host.bridge other := by
  rw [replacing, bridge_lettingGo, bridge_lettingGo, bridge_setBridge]

@[simp] theorem output_observe (host : Host) (output : List (Observation Report)) :
    (host.observe output).output = host.output ++ output := rfl

@[simp] theorem output_lettingGo (host : Host) (module : Option Loader.Module) :
    (host.lettingGo module).output = host.output := by
  cases module <;> rfl

@[simp] theorem output_holding (host : Host) (module : Option Loader.Module) :
    (host.holding module).output = host.output := by
  cases module <;> rfl

@[simp] theorem output_loaded (host : Host) (path : String) (loader : Loader) :
    (host.loaded path loader).output =
      host.output ++ [.logged (.libraryMapped path), .logged (.libraryLoaded path)] := rfl

@[simp] theorem output_receiveCustom (host : Host) (name : String) (call : Call) :
    (host.receiveCustom name call).output = host.output := rfl

@[simp] theorem output_modifyStatics (host : Host) (code : Code)
    (f : Loader.Statics → Loader.Statics) : (host.modifyStatics code f).output = host.output := by
  cases code <;> rfl

@[simp] theorem output_receiveCode (host : Host) (code : Code) (call : Call) :
    (host.receiveCode code call).output = host.output :=
  output_modifyStatics host code _

@[simp] theorem output_replacing (host : Host) (name : BridgeName) (next : Bridge.State) :
    (host.replacing name next).output = host.output := by
  rw [replacing, output_lettingGo, output_lettingGo]
  cases name <;> rfl

/-! ## Outputs with at most one call -/

/-- A contact as it was observed. -/
def Contact.observation (contact : Contact) : Observation Report :=
  .called contact.party contact.call contact.nested contact.answer

/-- The steps made inside the contact, if there is one. -/
def innerOf (contact : Option Contact) : List Report :=
  contact.elim [] Contact.inner

/-- An output in which nobody is called, but for the given contact. -/
def Carries (output : List (Observation Report)) (contact : Option Contact) : Prop :=
  ∃ before after, Quiet before ∧ Quiet after ∧
    output = before ++ (contact.map Contact.observation).toList ++ after

theorem Contact.changes_observation (contact : Contact) :
    contact.observation.changes = changesOf contact.inner := by
  obtain ⟨party, call, nested, answer⟩ := contact
  cases nested <;> rfl

theorem Contact.timeline_observation (past : List Change) (contact : Contact) :
    contact.observation.timeline past = timelineOf past contact.inner := by
  obtain ⟨party, call, nested, answer⟩ := contact
  cases nested <;> rfl

theorem Carries.contacts {output : List (Observation Report)} {contact : Option Contact}
    (h : Carries output contact) :
    output.filterMap Observation.contact? = contact.toList := by
  obtain ⟨before, after, hbefore, hafter, rfl⟩ := h
  rw [List.filterMap_append, List.filterMap_append, contacts_of_quiet hbefore,
    contacts_of_quiet hafter]
  cases contact <;> rfl

theorem Carries.changesIn {output : List (Observation Report)} {contact : Option Contact}
    (h : Carries output contact) : changesIn output = changesOf (innerOf contact) := by
  obtain ⟨before, after, hbefore, hafter, rfl⟩ := h
  rw [changesIn_append, changesIn_append, changesIn_of_quiet hbefore, changesIn_of_quiet hafter]
  cases contact with
  | none => rfl
  | some contact =>
    simp [Host.changesIn, innerOf, Contact.changes_observation]

theorem Carries.timelineIn {output : List (Observation Report)} {contact : Option Contact}
    (h : Carries output contact) (past : List Change) :
    timelineIn past output = timelineOf past (innerOf contact) := by
  obtain ⟨before, after, hbefore, hafter, rfl⟩ := h
  rw [timelineIn_append, timelineIn_append, timelineIn_of_quiet past hbefore,
    timelineIn_of_quiet _ hafter, changesIn_of_quiet hbefore]
  cases contact with
  | none => rfl
  | some contact =>
    simp [Host.timelineIn, innerOf, Contact.timeline_observation]

theorem Quiet.nil : Quiet [] := by
  simp [Quiet]

/-- What is observed behind the call may be quiet as well. -/
theorem Carries.append {output later : List (Observation Report)} {contact : Option Contact}
    (h : Carries output contact) (hlater : Quiet later) : Carries (output ++ later) contact := by
  obtain ⟨before, after, hbefore, hafter, rfl⟩ := h
  exact ⟨before, after ++ later, hbefore, hafter.append hlater, by simp⟩

theorem Quiet.carries {output : List (Observation Report)} (h : Quiet output) :
    Carries output none :=
  ⟨output, [], h, .nil, by simp⟩

theorem quiet_logged (event : Bridge.Event) : Quiet [.logged event] := by
  simp [Quiet, Observation.isQuiet, Observation.contact?]

theorem quiet_diagnosis (message : String) : Quiet (diagnosis message) := by
  simp [diagnosis, Quiet, Observation.isQuiet, Observation.contact?]

theorem quiet_exitEvent (setup : Setup) (step : Step) (host : Host) :
    Quiet ((exitEvent? setup step host).toList.map .logged) := by
  cases exitEvent? setup step host with
  | none => exact .nil
  | some event => exact quiet_logged event

theorem quiet_preface (step : Step) : Quiet step.preface := by
  unfold Step.preface
  split
  · split
    · exact quiet_diagnosis _
    · exact .nil
  · exact .nil

/-! ## Visits -/

/-- A visit that begins in a process with the same bridges and the same output. -/
structure Visit.From (visit : Visit) (host : Host) : Prop where
  bridge : visit.host.bridge = host.bridge
  output : visit.host.output = host.output
  notes : Quiet visit.notes

variable {setup : Setup} {run : Runner}

theorem quiet_noteObservation (code : Code) (notes : List Analyzer.Note) :
    Quiet (notes.map (noteObservation code)) := by
  intro observation hmem
  obtain ⟨note, -, rfl⟩ := List.mem_map.mp hmem
  cases note <;> rfl

theorem entryVisit_from (host : Host) (code : Code) (call : Call) :
    (entryVisit setup host code call).From host := by
  unfold entryVisit
  cases setup.program code with
  | coded entryCode => exact ⟨by simp, by simp, .nil⟩
  | analyzer analyzer => exact ⟨by simp, by simp, quiet_noteObservation code _⟩

theorem entryVisit_party (setup : Setup) (host : Host) (code : Code) (call : Call) :
    (entryVisit setup host code call).party = .code code ∧
      (entryVisit setup host code call).call = call := by
  unfold entryVisit
  cases setup.program code <;> exact ⟨rfl, rfl⟩

/-- A visit to an engine is a call to the code that the engine leads to. -/
theorem visitOf_from {host : Host} {engine : Engine} {demand : Demand} {visit : Visit}
    (hvisit : visitOf setup host engine demand = some visit) :
    visit.From host ∧ partyOf engine = some visit.party ∧ visit.call = demand.call := by
  cases engine with
  | inert => cases hvisit
  | custom name =>
    obtain rfl := Option.some.inj hvisit
    exact ⟨⟨by simp [customVisit], by simp [customVisit], .nil⟩, rfl, rfl⟩
  | native native =>
    obtain rfl := Option.some.inj hvisit
    obtain ⟨hparty, hcall⟩ := entryVisit_party setup host native.code demand.call
    exact ⟨entryVisit_from host native.code demand.call, by rw [hparty]; rfl, hcall⟩

theorem directVisit_from {step : Step} {host : Host} {visit : Visit}
    (hvisit : step.directVisit? setup host = some visit) : visit.From host := by
  rcases visit_of_directVisit? setup hvisit with ⟨engine, demand, hvisit⟩ | ⟨code, call, rfl⟩
  · exact (visitOf_from hvisit).1
  · exact entryVisit_from host code call

/-- Entering code leaves the bridges as they are. -/
theorem Goes.bridge_enter {host : Host} {name : BridgeName} {operation : Operation} {frame : Frame}
    {visit : Visit} (hgoes : Goes setup host name operation (.reach frame visit)) :
    visit.host.bridge = host.bridge := by
  cases hgoes with
  | startsLoaded hloads hload hcomplete hvisit =>
    rw [(visitOf_from hvisit).1.bridge, bridge_holding, bridge_loaded]
  | startsSupplied hsupplies hvisit => exact (visitOf_from hvisit).1.bridge
  | forwards hdemand hengine hvisit => rw [(visitOf_from hvisit).1.bridge, bridge_holding]

/-- A replacement without a visit gives no bridge an engine. -/
theorem Goes.engine_replacing {host start : Host} {name replaced : BridgeName}
    {operation : Operation} {next : Bridge.State} {notes : List (Observation Report)} {b : Bool}
    (hgoes : Goes setup host name operation (.replace replaced next start notes b))
    (other : BridgeName) :
    ((start.replacing replaced next).bridge other).engine = .inert ∨
      ((start.replacing replaced next).bridge other).engine = (host.bridge other).engine := by
  have hnext : next.engine = .inert ∧ start.bridge = host.bridge := by
    cases hgoes <;> exact ⟨rfl, by simp⟩
  rw [bridge_replacing, hnext.2]
  by_cases hname : replaced = other
  · rw [if_pos hname, hnext.1]
    exact .inl rfl
  · rw [if_neg hname]
    exact .inr rfl

/-- The contact by which a visit is observed. -/
def Visit.contact (run : Runner) (visit : Visit) : Contact :=
  ⟨visit.party, visit.call, (visit.callBack run).1, visit.answer run⟩

/-- Nothing happens in a call to code that does not call back. -/
theorem Visit.Plain.contact_eq {visit : Visit} {answer : Answer} (h : visit.Plain answer)
    (run : Runner) : visit.contact run = ⟨visit.party, visit.call, none, answer⟩ := by
  unfold contact callBack
  rw [h.callbacks_eq run, h.answer_eq run]

theorem truthful_nil {before : BridgeName → Bridge.State} : Truthful setup before [] := by
  intro occurrence hmem
  cases hmem

/-- A finished visit shows one contact, and leaves the bridges as the steps inside it do. -/
theorem Visit.ending_tracks (hrun : Tracks setup run) {visit : Visit} {host : Host}
    (hfrom : visit.From host) :
    (visit.ending run).output = host.output ++ ((visit.contact run).observation :: visit.notes) ∧
      (visit.ending run).bridge = stateAfter host.bridge (changesOf (visit.contact run).inner) ∧
      Truthful setup host.bridge (visit.contact run).inner := by
  unfold ending contact observation callBack
  rw [output_observe, bridge_observe]
  cases visit.callbacks run with
  | none => exact ⟨by rw [hfrom.output]; rfl, by rw [hfrom.bridge]; rfl, truthful_nil⟩
  | some steps =>
    obtain ⟨houtput, hbridge, htruthful⟩ := hrun steps visit.host
    rw [hfrom.bridge] at hbridge htruthful
    exact ⟨by rw [houtput, hfrom.output]; rfl, hbridge, htruthful⟩

/-- A visit shows its contact and no other. -/
theorem Visit.carries_ending (hrun : Tracks setup run) {visit : Visit} {host : Host}
    (hfrom : visit.From host) (hquiet : Quiet host.output) :
    Carries (visit.ending run).output (some (visit.contact run)) := by
  refine ⟨host.output, visit.notes, hquiet, hfrom.notes, ?_⟩
  rw [(visit.ending_tracks hrun hfrom).1, List.append_assoc]
  rfl

/-! ## Leaving a visit -/

/-- The state that an attempt publishes when its startup has ended in some way. -/
def attemptState (outcome : Outcome Bool) (engine : Engine) (module : Option Loader.Module) :
    Bridge.State :=
  match outcome with
  | .returned true => ⟨.initialized, engine, module⟩
  | .returned false => .disabled .startupRejected module
  | .panicked => .disabled .startupPanicked module

theorem Frame.bridge_leave_attempt (name : BridgeName) (engine : Engine)
    (module : Option Loader.Module) (answer : Answer) (host : Host) (other : BridgeName) :
    ((Frame.attempt name engine module).leave answer host).bridge other =
      if name = other then attemptState answer.startup engine module else host.bridge other := by
  unfold leave attemptState
  rcases answer.startup with started | _
  · cases started <;> simp only [bridge_replacing, bridge_lettingGo, bridge_observe]
  · simp only [bridge_replacing, bridge_lettingGo, bridge_observe]

theorem Frame.bridge_leave_frameOf (engine : Engine) (demand : Demand) (answer : Answer)
    (host : Host) : ((frameOf engine demand).leave answer host).bridge = host.bridge := by
  unfold frameOf leave
  cases demand with
  | ingest trace => cases answer.ingestion <;> simp
  | _ => cases answer.decision <;> simp

/-- When a visit has been left, every bridge has an inert engine, or the one that it had before, or
the one that an attempt has just started. -/
theorem Frame.engine_leave (frame : Frame) (answer : Answer) (host : Host) (other : BridgeName) :
    ((frame.leave answer host).bridge other).engine = .inert ∨
      ((frame.leave answer host).bridge other).engine = (host.bridge other).engine ∨
        ∃ engine module, frame = .attempt other engine module ∧ answer.accepts ∧
          ((frame.leave answer host).bridge other).engine = engine := by
  cases frame with
  | attempt name engine module =>
    rw [bridge_leave_attempt]
    by_cases hname : name = other
    · subst hname
      rw [if_pos rfl]
      unfold attemptState
      rcases hstartup : answer.startup with started | _
      · cases started with
        | true =>
          exact .inr (.inr ⟨engine, module, rfl, by simp [Answer.accepts, hstartup], rfl⟩)
        | false => exact .inl rfl
      · exact .inl rfl
    · rw [if_neg hname]
      exact .inr (.inl rfl)
  | deciding engine =>
    have hsame := bridge_leave_frameOf engine (.block default) answer host
    exact .inr (.inl (congrArg (fun bridge => (bridge other).engine) hsame))
  | ingesting engine =>
    have hsame := bridge_leave_frameOf engine (.ingest default) answer host
    exact .inr (.inl (congrArg (fun bridge => (bridge other).engine) hsame))

/-- Leaving a visit calls nobody. -/
theorem Frame.output_leave (frame : Frame) (answer : Answer) (host : Host) :
    ∃ output, Quiet output ∧ (frame.leave answer host).output = host.output ++ output := by
  cases frame with
  | attempt name engine module =>
    unfold leave
    rcases answer.startup with started | _
    · cases started with
      | false => exact ⟨_, quiet_logged _, by rw [output_replacing, output_lettingGo]; rfl⟩
      | true => exact ⟨_, quiet_logged _, by rw [output_replacing]; rfl⟩
    · exact ⟨_, quiet_logged _, by rw [output_replacing, output_lettingGo]; rfl⟩
  | deciding engine =>
    unfold leave
    cases answer.decision <;> exact ⟨_, quiet_logged _, by rw [output_lettingGo]; rfl⟩
  | ingesting engine =>
    unfold leave
    cases answer.ingestion with
    | returned done => exact ⟨[], .nil, by simp⟩
    | panicked => exact ⟨_, quiet_logged _, by rw [output_lettingGo]; rfl⟩

/-! ## Operations -/

theorem Operation.replaces_of_demand? {operation : Operation} (h : operation.demand? = none) :
    operation.replaces = true := by
  cases operation <;> first | rfl | cases h

theorem Operation.demand?_of_isAttempt {operation : Operation} (h : operation.isAttempt) :
    operation.demand? = none := by
  cases operation <;> first | rfl | cases h

theorem Operation.replaces_of_isAttempt {operation : Operation} (h : operation.isAttempt) :
    operation.replaces = true :=
  replaces_of_demand? (demand?_of_isAttempt h)

/-- Whose startup was accepted by the contact, if there is one. -/
def acceptedBy (contact : Option Contact) : Option Party :=
  (contact.toList.find? Contact.isAcceptance).map Contact.party

/-- How an operation ended: its contact, its truth value, and the states after it. -/
structure Ended (setup : Setup) (before : BridgeName → Bridge.State) (name : BridgeName)
    (operation : Operation) (contact : Option Contact) (b : Bool)
    (after : BridgeName → Bridge.State) : Prop where
  kept : ∀ other, operation.replaces = false ∨ name ≠ other →
    after other = stateAfter before (changesOf (innerOf contact)) other
  demands : ∀ {demand}, operation.demand? = some demand →
    match partyOf (before name).engine with
    | none => contact = none ∧ b = false
    | some party => ∃ nested answer,
        contact = some ⟨party, demand.call, nested, answer⟩ ∧ b = demand.yields answer
  attempts : operation.isAttempt →
    Published setup (acceptedBy contact) (after name) ∧ b = (acceptedBy contact).isSome
  disables : ∀ {reason}, operation = .disable reason → after name = .disabled reason none
  shutsDown : operation = .shutdown → after name = .unloaded ∧ b = (before name).hasModule

/-- An operation that replaced the state of its bridge without reaching any code. -/
theorem Ended.of_replace {before after : BridgeName → Bridge.State} {name : BridgeName}
    {operation : Operation} {next : Bridge.State} {b : Bool}
    (hafter : ∀ other, after other = if name = other then next else before other)
    (hdemand : operation.demand? = none)
    (hattempt : operation.isAttempt → Published setup none next ∧ b = false)
    (hdisable : ∀ reason, operation = .disable reason → next = .disabled reason none)
    (hshutdown : operation = .shutdown → next = .unloaded ∧ b = (before name).hasModule) :
    Ended setup before name operation none b after where
  kept := by
    rintro other (hreplaces | hne)
    · rw [Operation.replaces_of_demand? hdemand] at hreplaces
      cases hreplaces
    · rw [hafter, if_neg hne]
      rfl
  demands hsome := by
    rw [hdemand] at hsome
    cases hsome
  attempts h := by
    rw [hafter, if_pos rfl]
    exact hattempt h
  disables h := by
    rw [hafter, if_pos rfl]
    exact hdisable _ h
  shutsDown h := by
    rw [hafter, if_pos rfl]
    exact hshutdown h

/-- An attempt whose engine was reached. -/
theorem Ended.of_attempt {before after : BridgeName → Bridge.State} {name : BridgeName}
    {operation : Operation} (engine : Engine) (module : Option Loader.Module)
    {args : Startup.Arguments} {contact : Contact} (hattempt : operation.isAttempt)
    (hafter : ∀ other, after other =
      if name = other then attemptState contact.answer.startup engine module
      else stateAfter before (changesOf contact.inner) other)
    (hcall : contact.call = .startup args.raw)
    (hcomplete : ∀ held ∈ module, ∀ point, Exports setup held point)
    (haccepted : contact.answer.accepts →
      Published setup (some contact.party) ⟨.initialized, engine, module⟩) :
    Ended setup before name operation (some contact) contact.answer.accepts after where
  kept := by
    rintro other (hreplaces | hne)
    · rw [Operation.replaces_of_isAttempt hattempt] at hreplaces
      cases hreplaces
    · rw [hafter, if_neg hne]
      rfl
  demands hsome := by
    rw [Operation.demand?_of_isAttempt hattempt] at hsome
    cases hsome
  attempts _ := by
    -- whether the startup was accepted is read off the only contact
    have haccepts : acceptedBy (some contact) =
        if contact.answer.accepts then some contact.party else none := by
      have hpoint : contact.call.entryPoint = .startup := by
        rw [hcall]
        rfl
      cases h : contact.answer.accepts <;> simp [acceptedBy, Contact.isAcceptance, hpoint, h]
    rw [hafter, if_pos rfl, haccepts]
    unfold attemptState
    rcases hstartup : contact.answer.startup with started | _
    · cases started with
      | false =>
        have hrefused : contact.answer.accepts = false := by simp [Answer.accepts, hstartup]
        rw [hrefused]
        exact ⟨.rejected hcomplete, rfl⟩
      | true =>
        have haccept : contact.answer.accepts = true := by simp [Answer.accepts, hstartup]
        rw [haccept]
        exact ⟨haccepted haccept, rfl⟩
    · have hrefused : contact.answer.accepts = false := by simp [Answer.accepts, hstartup]
      rw [hrefused]
      exact ⟨.panicked hcomplete, rfl⟩
  disables h := by
    rw [h] at hattempt
    cases hattempt
  shutsDown h := by
    rw [h] at hattempt
    cases hattempt

/-- A demand to the engine of the present state. -/
theorem Ended.of_demand {before after : BridgeName → Bridge.State} {name : BridgeName}
    {operation : Operation} {demand : Demand} {contact : Option Contact} {b : Bool}
    (hdemand : operation.demand? = some demand)
    (hafter : after = stateAfter before (changesOf (innerOf contact)))
    (hanswered : match partyOf (before name).engine with
      | none => contact = none ∧ b = false
      | some party => ∃ nested answer,
          contact = some ⟨party, demand.call, nested, answer⟩ ∧ b = demand.yields answer) :
    Ended setup before name operation contact b after where
  kept _ _ := by rw [hafter]
  demands hsome := by
    obtain rfl := Option.some.inj (hdemand.symm.trans hsome)
    exact hanswered
  attempts h := by
    rw [Operation.demand?_of_isAttempt h] at hdemand
    cases hdemand
  disables h := by
    rw [h] at hdemand
    cases hdemand
  shutsDown h := by
    rw [h] at hdemand
    cases hdemand

theorem Operation.isAttempt_of_loads? {operation : Operation} {loads : String × Startup.Arguments}
    (h : operation.loads? = some loads) : operation.isAttempt := by
  cases operation <;> first | rfl | cases h

theorem Operation.isAttempt_of_supplies? {operation : Operation}
    {supplies : Engine × Startup.Arguments} (h : operation.supplies? setup = some supplies) :
    operation.isAttempt := by
  cases operation <;> first | rfl | cases h

/-- A failed attempt that reached no code. -/
theorem Ended.of_failure {before after : BridgeName → Bridge.State} {name : BridgeName}
    {operation : Operation} {next : Bridge.State} (hattempt : operation.isAttempt)
    (hafter : ∀ other, after other = if name = other then next else before other)
    (hpublished : Published setup none next) :
    Ended setup before name operation none false after := by
  refine .of_replace hafter (Operation.demand?_of_isAttempt hattempt) (fun _ => ⟨hpublished, rfl⟩)
    ?_ ?_
  · rintro reason rfl
    cases hattempt
  · rintro rfl
    cases hattempt

/-- What remains after a visit was observed adds no call to the output. -/
theorem Visit.carries_leave (hrun : Tracks setup run) {visit : Visit} {host : Host}
    (hfrom : visit.From host) (hquiet : Quiet host.output) (frame : Frame) :
    Carries (frame.leave (visit.answer run) (visit.ending run)).output
      (some (visit.contact run)) := by
  obtain ⟨output, houtput, hleave⟩ := frame.output_leave (visit.answer run) (visit.ending run)
  obtain ⟨hover, -, -⟩ := visit.ending_tracks hrun hfrom
  refine ⟨host.output, visit.notes ++ output, hquiet, hfrom.notes.append houtput, ?_⟩
  rw [hleave, hover]
  simp

theorem Frame.yields_frameOf {operation : Operation} {demand : Demand}
    (hdemand : operation.demand? = some demand) (engine : Engine) (answer : Answer) :
    (frameOf engine demand).yields answer = demand.yields answer := by
  cases operation with
  | decideBlock exchange =>
    obtain rfl := Option.some.inj hdemand
    rfl
  | ingest trace =>
    obtain rfl := Option.some.inj hdemand
    rfl
  | _ => cases hdemand

/-- The contact that is made when an operation goes a certain way, if code is reached. -/
def Course.contact? (run : Runner) : Course → Option Contact
  | .reach _ visit => some (visit.contact run)
  | _ => none

/-- What can be observed when an operation has gone a certain way: its contact and nobody else's, and
an end that fits the rules. -/
structure Course.Fits (setup : Setup) (run : Runner) (before : BridgeName → Bridge.State)
    (name : BridgeName) (operation : Operation) (course : Course) : Prop where
  carries : Carries (course.finish run).2.output (course.contact? run)
  truthful : Truthful setup before (innerOf (course.contact? run))
  ended : Ended setup before name operation (course.contact? run) (course.finish run).1
    (course.finish run).2.bridge

/-- A replacement without a visit fits the rules if its end does. -/
theorem Course.fits_replace {host start : Host} {name : BridgeName} {operation : Operation}
    {next : Bridge.State} {notes : List (Observation Report)} {b : Bool}
    (hbridge : start.bridge = host.bridge) (hstart : Quiet start.output) (hnotes : Quiet notes)
    (hended : ∀ after : BridgeName → Bridge.State,
      (∀ other, after other = if name = other then next else host.bridge other) →
        Ended setup host.bridge name operation none b after) :
    (Course.replace name next start notes b).Fits setup run host.bridge name operation := by
  refine ⟨?_, truthful_nil, hended _ fun other => ?_⟩
  · have hquiet : Quiet ((start.replacing name next).observe notes).output := by
      rw [output_observe, output_replacing]
      exact hstart.append hnotes
    exact hquiet.carries
  · simp [finish, bridge_replacing, hbridge]

/-- An attempt that reaches the code of its engine fits the rules if what it publishes on success
does. -/
theorem Course.fits_attempt (hrun : Tracks setup run) {host start : Host} {name : BridgeName}
    {operation : Operation} {engine : Engine} {module : Option Loader.Module}
    {args : Startup.Arguments} {visit : Visit} (hattempt : operation.isAttempt)
    (hbridge : start.bridge = host.bridge) (hstart : Quiet start.output)
    (hvisit : visitOf setup start engine (.startup args) = some visit)
    (hcomplete : ∀ held ∈ module, ∀ point, Exports setup held point)
    (hpublished : Published setup (partyOf engine) ⟨.initialized, engine, module⟩) :
    (Course.reach (.attempt name engine module) visit).Fits setup run host.bridge name
      operation := by
  obtain ⟨hfrom, hparty, hcall⟩ := visitOf_from hvisit
  obtain ⟨-, hover, htruthful⟩ := visit.ending_tracks hrun hfrom
  rw [hbridge] at hover htruthful
  refine ⟨visit.carries_leave hrun hfrom hstart _, htruthful, ?_⟩
  refine .of_attempt engine module hattempt (fun other => ?_) hcall hcomplete fun _ => ?_
  · rw [← hover]
    exact Frame.bridge_leave_attempt name engine module (visit.answer run) (visit.ending run) other
  · rw [hparty] at hpublished
    exact hpublished

/-- The step lemma for operations: one case for each way in which an operation can go. -/
theorem Goes.fits (hrun : Tracks setup run) {host : Host} {name : BridgeName}
    {operation : Operation} {course : Course} (hgoes : Goes setup host name operation course)
    (hquiet : Quiet host.output) : course.Fits setup run host.bridge name operation := by
  have hlogged : ∀ event, Quiet (host.output ++ [.logged event]) := fun event =>
    hquiet.append (quiet_logged event)
  have hloaded : ∀ path loader module, Quiet ((host.loaded path loader).holding module).output := by
    intro path loader module
    rw [output_holding, output_loaded]
    exact hquiet.append ((quiet_logged _).append (quiet_logged _))
  -- a replacement or an attempt is as good as what it publishes; a demand publishes nothing
  cases hgoes with
  | loadFails hloads hload =>
    exact Course.fits_replace (by simp) (hquiet.append (quiet_diagnosis _)) .nil fun _ hafter =>
      .of_failure (Operation.isAttempt_of_loads? hloads) hafter .loadFailed
  | @lacks path args module loader missing hloads hload hmissing =>
    obtain ⟨hlacks, hbefore⟩ := Loader.firstUnresolved?_eq_some hmissing
    refine Course.fits_replace (by simp) ?_ .nil fun _ hafter =>
      .of_failure (Operation.isAttempt_of_loads? hloads) hafter
        (.lacks (by simp [Exports, hlacks]) hbefore)
    rw [output_observe, output_lettingGo]
    exact (hloaded path loader _).append (quiet_diagnosis _)
  | startsLoaded hloads hload hcomplete hvisit =>
    have hexports : ∀ point, Exports setup _ point := fun point =>
      Loader.firstUnresolved?_eq_none hcomplete point (by cases point <;> decide)
    refine Course.fits_attempt hrun (Operation.isAttempt_of_loads? hloads) (by simp)
      (hloaded _ _ _) hvisit (fun held hheld => ?_) (.loaded hexports)
    obtain rfl := Option.some.inj hheld
    exact hexports
  | refuses hsupplies =>
    exact Course.fits_replace (by simp) (hlogged _) .nil fun _ hafter =>
      .of_failure (Operation.isAttempt_of_supplies? hsupplies) hafter
        (.rejected (by simp))
  | startsSupplied hsupplies hvisit =>
    obtain ⟨-, hparty, -⟩ := visitOf_from hvisit
    refine Course.fits_attempt hrun (Operation.isAttempt_of_supplies? hsupplies) rfl hquiet
      hvisit (by simp) ?_
    rw [hparty]
    exact .supplied hparty (Operation.module?_of_supplies? hsupplies)
  | disables hdisable =>
    subst hdisable
    refine Course.fits_replace (by simp) (hlogged _) .nil fun _ hafter =>
      .of_replace hafter rfl (fun h => by cases h) (fun reason h => ?_) (fun h => by cases h)
    obtain rfl := Operation.disable.inj h
    rfl
  | @unheard demand hdemand hengine =>
    refine ⟨?_, truthful_nil, .of_demand hdemand (bridge_observe _ _) ?_⟩
    · cases demand with
      | ingest trace =>
        rw [Course.finish, Host.unheard, observe_nil]
        exact hquiet.carries
      | _ => exact (hlogged _).carries
    · rw [hengine]
      exact ⟨rfl, rfl⟩
  | @forwards engine demand visit hdemand hengine hvisit =>
    obtain ⟨hfrom, hparty, hcall⟩ := visitOf_from hvisit
    obtain ⟨-, hover, htruthful⟩ := visit.ending_tracks hrun hfrom
    rw [bridge_holding] at hover htruthful
    refine ⟨?_, htruthful, .of_demand hdemand ?_ ?_⟩
    · exact visit.carries_leave hrun hfrom (by rwa [output_holding]) _
    · simp only [Course.finish, Frame.bridge_leave_frameOf]
      exact hover
    · rw [hengine, hparty]
      refine ⟨(visit.callBack run).1, visit.answer run, ?_, ?_⟩
      · rw [Course.contact?, Visit.contact, hcall]
      · exact Frame.yields_frameOf hdemand engine (visit.answer run)
  | shutsDown hshutdown =>
    subst hshutdown
    refine Course.fits_replace rfl hquiet ?_ fun _ hafter =>
      .of_replace hafter rfl (fun h => by cases h) (fun _ h => by cases h) fun _ => ⟨rfl, rfl⟩
    split
    · exact quiet_logged _
    · exact .nil

/-! ## Steps -/

/-- A report shows the bridges as the step leaves them. -/
theorem report_state (setup : Setup) (run : Runner) (step : Step) (host : Host) :
    ((report setup run step).run host).1.state =
      ((perform setup run step).run host.beginning).2.bridge := by
  funext name
  cases name <;> rfl

theorem Carries.closing {contact : Option Contact} {host : Host} (h : Carries host.output contact)
    (setup : Setup) (step : Step) : Carries (host.closing setup step).output contact := by
  rw [output_closing]
  exact h.append (quiet_exitEvent setup step host)

/-- The contacts of a report are those of the way that the operation has gone. -/
theorem contacts_report {step : Step} {host : Host} {course : Course}
    (hperform : (perform setup run step).run host.beginning =
      (step.shows (course.finish run).1, (course.finish run).2.closing setup step))
    (hcarries : Carries (course.finish run).2.output (course.contact? run)) :
    ((report setup run step).run host).1.contacts = (course.contact? run).toList := by
  change List.filterMap _ ((perform setup run step).run host.beginning).2.output = _
  rw [hperform]
  exact (hcarries.closing setup step).contacts

/-- The report of an operation that fits the rules is faithful. -/
theorem faithful_of_fits {step : Step} {name : BridgeName} {operation : Operation}
    {before : BridgeName → Bridge.State} {contact : Option Contact} {b : Bool} {report : Report}
    (htarget : step.target? = some (name, operation)) (hstep : report.step = step)
    (hresult : report.result = step.shows b) (hcarries : Carries report.output contact)
    (hended : Ended setup before name operation contact b report.state) :
    report.Faithful setup before := by
  have hsame : ∀ {name' operation'}, report.step.target? = some (name', operation') →
      name' = name ∧ operation' = operation := by
    intro name' operation' h
    rw [hstep, htarget] at h
    obtain ⟨rfl, rfl⟩ := Prod.mk.inj (Option.some.inj h)
    exact ⟨rfl, rfl⟩
  have haccepted : report.accepted? = acceptedBy contact := by
    rw [Report.accepted?, Report.contacts, hcarries.contacts, acceptedBy]
  refine ⟨fun other => ?_, fun h hdemand => ?_, fun h hattempt => ?_, fun h => ?_, fun h => ?_,
    fun h => ?_⟩
  · -- the changes inside the call come first, then the change of the step itself
    rw [Report.changes_eq, hcarries.changesIn, stateAfter_append,
      Report.change?_of_target (hstep ▸ htarget)]
    cases hreplaces : operation.replaces with
    | false => exact hended.kept other (.inl hreplaces)
    | true =>
      rw [if_pos rfl, Option.toList_some, stateAfter_singleton]
      by_cases hname : name = other
      · rw [if_pos hname, hname]
      · rw [if_neg hname]
        exact hended.kept other (.inr hname)
  · obtain ⟨rfl, rfl⟩ := hsame h
    have hanswered := hended.demands hdemand
    unfold Answered Report.contacts
    rw [hcarries.contacts, hresult, hstep]
    cases hparty : partyOf (before _).engine with
    | none =>
      rw [hparty] at hanswered
      obtain ⟨rfl, rfl⟩ := hanswered
      exact ⟨rfl, rfl⟩
    | some party =>
      rw [hparty] at hanswered
      obtain ⟨nested, answer, rfl, rfl⟩ := hanswered
      exact ⟨nested, answer, rfl, rfl⟩
  · obtain ⟨rfl, rfl⟩ := hsame h
    obtain ⟨hpublished, rfl⟩ := hended.attempts hattempt
    rw [haccepted, hresult, hstep]
    exact ⟨hpublished, rfl⟩
  · obtain ⟨rfl, rfl⟩ := hsame h
    exact hended.disables rfl
  · obtain ⟨rfl, rfl⟩ := hsame h
    obtain ⟨hunloaded, rfl⟩ := hended.shutsDown rfl
    rw [hresult, hstep]
    exact ⟨hunloaded, rfl⟩
  · rw [hstep] at h
    rw [h] at htarget
    cases htarget

/-- The report of a step that is no operation is faithful if the step shows bridges as they are. -/
theorem faithful_of_target?_eq_none {before : BridgeName → Bridge.State} {report : Report}
    (htarget : report.step.target? = none)
    (hstates : report.state = stateAfter before (changesIn report.output))
    (hdisplay : ∀ {name}, report.step = .display name →
      report.result = .text (before name).shown) : report.Faithful setup before where
  states name := by
    rw [Report.changes_eq, Report.change?, htarget, hstates]
    simp
  demands h := by
    rw [htarget] at h
    cases h
  attempts h := by
    rw [htarget] at h
    cases h
  disables h := by
    rw [htarget] at h
    cases h
  shutsDown h := by
    rw [htarget] at h
    cases h
  displays h := hdisplay h

/-- What a run of one step shows: it keeps the output of the step around it, changes the bridges as
its report says, and is reported faithfully at all depths. -/
def Tracked (setup : Setup) (host : Host) (ran : Report × Host) : Prop :=
  ran.2.output = host.output ∧ ran.2.bridge = stateAfter host.bridge ran.1.changes ∧
    ran.1.Faithful setup host.bridge ∧
    ∀ occurrence ∈ ran.1.inside,
      occurrence.report.Faithful setup (stateAfter host.bridge occurrence.past)

/-- A step with a faithful report and at most one contact is tracked. -/
theorem tracked_of_performed {step : Step} {host : Host} {contact : Option Contact}
    (hcarries : Carries ((perform setup run step).run host.beginning).2.output contact)
    (htruthful : Truthful setup host.bridge (innerOf contact))
    (hfaithful : ((report setup run step).run host).1.Faithful setup host.bridge) :
    Tracked setup host ((report setup run step).run host) := by
  refine ⟨rfl, ?_, hfaithful, fun occurrence hmem => ?_⟩
  · funext name
    rw [← hfaithful.states name]
    cases name <;> rfl
  · have hinside : ((report setup run step).run host).1.inside = timelineOf [] (innerOf contact) :=
      hcarries.timelineIn []
    rw [hinside] at hmem
    exact htruthful occurrence hmem

/-- The step lemma: a step is tracked if the steps made inside it are reported truthfully. -/
theorem report_tracks (hrun : Tracks setup run) (step : Step) (host : Host) :
    Tracked setup host ((report setup run step).run host) := by
  cases htarget : step.target? with
  | some target =>
    -- an operation of a bridge
    obtain ⟨name, operation⟩ := target
    obtain ⟨course, hgoes, hperforms⟩ := exists_goes_of_target setup htarget host.beginning
    obtain ⟨hcarries, htruthful, hended⟩ := hgoes.fits hrun (quiet_preface step)
    rw [bridge_observe, bridge_beginning] at htruthful hended
    have hperform := hperforms run
    replace hcarries := hcarries.closing setup step
    rw [← congrArg (fun performed => performed.2.output) hperform] at hcarries
    have hresult := congrArg (fun performed => performed.1) hperform
    have hbridge := congrArg (fun performed => performed.2.bridge) hperform
    refine tracked_of_performed hcarries htruthful
      (faithful_of_fits htarget rfl hresult hcarries ?_)
    rw [report_state, hbridge, bridge_closing]
    exact hended
  | none =>
    cases hvisit : step.directVisit? setup host.beginning with
    | some visit =>
      -- a call without a bridge, from whose callback operations of bridges can still be made
      obtain ⟨result, hperform⟩ := perform_of_directVisit setup hvisit run
      have hfrom := directVisit_from hvisit
      obtain ⟨-, hbridge, htruthful⟩ := visit.ending_tracks hrun hfrom
      rw [bridge_beginning] at hbridge htruthful
      have hcarries : Carries ((perform setup run step).run host.beginning).2.output
          (some (visit.contact run)) := by
        rw [hperform]
        exact visit.carries_ending hrun hfrom .nil
      refine tracked_of_performed hcarries htruthful
        (faithful_of_target?_eq_none htarget ?_ ?_)
      · change _ = stateAfter host.bridge
          (changesIn ((perform setup run step).run host.beginning).2.output)
        rw [hcarries.changesIn, report_state, hperform, hbridge]
        rfl
      · rintro name rfl
        cases hvisit
    | none =>
      obtain ⟨result, hperform⟩ := perform_of_aside setup htarget hvisit
      have hcarries : Carries ((perform setup run step).run host.beginning).2.output none := by
        rw [hperform run]
        exact Quiet.nil.carries
      refine tracked_of_performed hcarries truthful_nil
        (faithful_of_target?_eq_none htarget ?_ ?_)
      · change _ = stateAfter host.bridge
          (changesIn ((perform setup run step).run host.beginning).2.output)
        rw [hcarries.changesIn, report_state, hperform run, bridge_withDisk, bridge_beginning]
        rfl
      · rintro name rfl
        rw [← bridge_beginning host]
        rfl

/-- Runs of steps whose callbacks are reported truthfully are reported truthfully. -/
theorem reportAll_tracks (hrun : Tracks setup run) (steps : List Step) (host : Host) :
    TrackedRun setup host ((reportAll setup run steps).run host) := by
  induction steps generalizing host with
  | nil => exact ⟨rfl, rfl, truthful_nil⟩
  | cons step steps ih =>
    rw [reportAll_cons_run]
    obtain ⟨houtput, hbridge, hfaithful, hinside⟩ := report_tracks hrun step host
    obtain ⟨houtputs, hbridges, htruthful⟩ := ih ((report setup run step).run host).2
    refine ⟨houtputs.trans houtput, ?_, ?_⟩
    · rw [hbridges, hbridge, changesOf, stateAfter_append]
    · intro occurrence hmem
      rw [timelineOf, Report.timeline_eq, List.cons_append, List.mem_cons, List.mem_append] at hmem
      rcases hmem with rfl | hmem | hmem
      · exact hfaithful
      · exact hinside occurrence hmem
      · -- a later step begins after all changes of the first one
        rw [List.nil_append, timelineOf_eq_map] at hmem
        obtain ⟨later, hlater, rfl⟩ := List.mem_map.mp hmem
        have hlate := htruthful later hlater
        rw [hbridge, ← stateAfter_append] at hlate
        exact hlate

/-- Callbacks are reported truthfully, however deep they are performed. -/
theorem calledBack_tracks (depth : Nat) : Tracks setup (calledBack setup depth) := by
  induction depth with
  | zero =>
    intro steps host
    rw [all_calledBack_zero]
    exact ⟨rfl, rfl, truthful_nil⟩
  | succ depth ih =>
    intro steps host
    rw [all_calledBack_succ]
    exact reportAll_tracks ih steps host

/-- Every run is reported truthfully. -/
theorem runSteps_tracks (depth : Nat) (steps : List Step) (host : Host) :
    TrackedRun setup host ((runSteps setup depth steps).run host) :=
  reportAll_tracks (calledBack_tracks depth) steps host

end Host
end FailOpen
