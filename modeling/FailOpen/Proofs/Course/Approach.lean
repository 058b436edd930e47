import FailOpen.Proofs.Course.Slots

/-!
# Calls that cannot be told apart

Which engine an operation calls, with what and in which process, is settled before any code is
reached.  What the code then does depends on the calls that it has received before, or on its slot if
it is a forgetful analyzer, but on nothing else in the process.  So two processes in which the code
has the same past are `Peers`: in both of them it reacts to the same call in the same way, and leaves
peers behind.

* `Goes.visit?_eq` reads the visit of an operation off its `Approach`.
* `visitOf_rel` and `directVisit_rel` say that the same call to peers is the same visit.
-/

namespace FailOpen
namespace Host

/-! ## The engine that an operation calls -/

/-- A demand to an engine, and the process in which it is made. -/
structure Approach where
  host : Host
  engine : Engine
  demand : Demand

/-- The demand by which an operation calls an engine, if it comes that far. -/
def Operation.approach? (setup : Setup) (host : Host) (name : BridgeName) (operation : Operation) :
    Option Approach :=
  match operation.demand? with
  | some demand =>
      let engine := (host.bridge name).engine
      some ⟨host.holding engine.module?, engine, demand⟩
  | none =>
      match operation.loads? with
      | some (path, args) =>
          match host.loader.load path with
          | .error _ => none
          | .ok (module, loader) =>
              let start := (host.loaded path loader).holding (some module)
              match start.loader.unresolved? (setup.library module.file).finds module with
              | some _ => none
              | none => some ⟨start, engineIn module, .startup args⟩
      | none => (operation.supplies? setup).map fun (engine, args) => ⟨host, engine, .startup args⟩

/-- The visit that is made when an operation goes a certain way, if code is reached. -/
def Course.visit? : Course → Option Visit
  | .reach _ visit => some visit
  | _ => none

theorem Course.exists_frame {course : Course} {visit : Visit} (h : course.visit? = some visit) :
    ∃ frame, course = .reach frame visit := by
  cases course with
  | reach frame reached =>
    obtain rfl := Option.some.inj h
    exact ⟨frame, rfl⟩
  | _ => cases h

/-- An operation visits the engine that it calls. -/
theorem Goes.visit?_eq {setup : Setup} {host : Host} {name : BridgeName} {operation : Operation}
    {course : Course} (hgoes : Goes setup host name operation course) :
    course.visit? = (operation.approach? setup host name).bind fun approach =>
      visitOf setup approach.host approach.engine approach.demand := by
  unfold Operation.approach?
  cases hgoes with
  | loadFails hloads hload =>
    simp [Operation.demand?_of_isAttempt (Operation.isAttempt_of_loads? hloads), hloads, hload,
      Course.visit?]
  | lacks hloads hload hmissing =>
    simp [Operation.demand?_of_isAttempt (Operation.isAttempt_of_loads? hloads), hloads, hload,
      hmissing, Course.visit?]
  | startsLoaded hloads hload hcomplete hvisit =>
    simp [Operation.demand?_of_isAttempt (Operation.isAttempt_of_loads? hloads), hloads, hload,
      hcomplete, hvisit, Course.visit?]
  | refuses hsupplies =>
    cases operation with
    | startSupplied engine args =>
      simp [Operation.demand?, Operation.loads?, hsupplies, Course.visit?, visitOf]
    | _ => cases hsupplies
  | startsSupplied hsupplies hvisit =>
    cases operation with
    | startSupplied engine args =>
      simp [Operation.demand?, Operation.loads?, hsupplies, hvisit, Course.visit?]
    | _ => cases hsupplies
  | disables hdisable =>
    subst hdisable
    rfl
  | unheard hdemand hengine => simp [hdemand, hengine, Course.visit?, visitOf]
  | forwards hdemand hengine hvisit =>
    subst hengine
    simp [hdemand, hvisit, Course.visit?]
  | shutsDown hshutdown =>
    subst hshutdown
    rfl

/-! ## What custom engines have received -/

section

variable (host : Host)

@[simp] theorem received_observe (output : List (Observation Report)) :
    (host.observe output).received = host.received := rfl

@[simp] theorem received_loaded (path : String) (loader : Loader) :
    (host.loaded path loader).received = host.received := rfl

@[simp] theorem received_holding (module : Option Loader.Module) :
    (host.holding module).received = host.received := by
  cases module <;> rfl

@[simp] theorem received_lettingGo (module : Option Loader.Module) :
    (host.lettingGo module).received = host.received := by
  cases module <;> rfl

@[simp] theorem received_replacing (name : BridgeName) (next : Bridge.State) :
    (host.replacing name next).received = host.received := by
  rw [replacing, received_lettingGo, received_lettingGo]
  cases name <;> rfl

/-- Leaving a call calls no custom engine. -/
theorem Frame.received_leave (frame : Frame) (answer : Answer) :
    (frame.leave answer host).received = host.received := by
  cases frame with
  | attempt name engine module =>
    unfold leave
    rcases answer.startup with started | _
    · cases started <;> simp
    · simp
  | deciding engine =>
    unfold leave
    cases answer.decision <;> simp
  | ingesting engine =>
    unfold leave
    cases answer.ingestion <;> simp

end

/-! ## Peers -/

/-- The code in two processes has the same past: custom engines have received the same calls, and so
has what is linked in; and the same analyzers have been started in files, with the same requests. -/
structure Peers (first second : Host) : Prop where
  received : first.received = second.received
  linked : first.linked = second.linked
  slots : ∀ file, (first.loader.statics file).slot = (second.loader.statics file).slot

/-- Two visits with the same call and the same reaction, in peers. -/
structure Visit.Resembles (first second : Visit) : Prop where
  party : first.party = second.party
  call : first.call = second.call
  reaction : first.reaction = second.reaction
  notes : first.notes = second.notes
  peers : Peers first.host second.host

variable {setup : Setup} {first second : Host}

/-- The same call to the same custom engine. -/
theorem customVisit_resembles (h : Peers first second) (name : String) (demand : Demand) :
    (customVisit setup first name demand).Resembles (customVisit setup second name demand) := by
  refine ⟨rfl, rfl, ?_, rfl, ?_, h.linked, h.slots⟩
  · show (setup.custom name).reaction (first.received name) demand = _
    rw [h.received]
    rfl
  · show update first.received name (first.received name ++ [demand.call]) = _
    rw [h.received]
    rfl

theorem received_entryVisit (host : Host) (code : Code) (call : Call) :
    (entryVisit setup host code call).host.received = host.received := by
  unfold entryVisit
  cases setup.program code <;> cases code <;> rfl

/-- What the entry points around a forgetful analyzer do is decided by the slot. -/
theorem analyzerEnding_of_slot {analyzer : Analyzer} (hforgets : analyzer.Forgetful)
    {memory other : Analyzer.Memory} (hslot : memory.slot = other.slot) (call : Call) :
    (analyzerEnding analyzer memory call).answer = (analyzerEnding analyzer other call).answer ∧
      (analyzerEnding analyzer memory call).notes = (analyzerEnding analyzer other call).notes ∧
      (analyzerEnding analyzer memory call).slot = (analyzerEnding analyzer other call).slot := by
  cases call with
  | startup args =>
    obtain ⟨hanswer, hkept⟩ := hforgets.startupEntry hslot args
    exact ⟨congrArg Answer.byte hanswer, hkept⟩
  | block exchange =>
    obtain ⟨hanswer, hkept⟩ := hforgets.blockEntry hslot exchange
    exact ⟨congrArg Answer.byte hanswer, hkept⟩
  | ingest trace => exact ⟨rfl, hforgets.ingestEntry hslot trace⟩

theorem linked_entryVisit_image (host : Host) (file : String) (call : Call) :
    (entryVisit setup host (.image file) call).host.linked = host.linked := by
  unfold entryVisit
  cases setup.program (.image file) <;> rfl

/-- The same call to a file that is mapped in both processes, with a forgetful analyzer in it. -/
theorem entryVisit_resembles_of_image (h : Peers first second) {file : String} {analyzer : Analyzer}
    (hprogram : setup.program (.image file) = .analyzer analyzer) (hforgets : analyzer.Forgetful)
    (hfirst : first.loader.isMapped file) (hsecond : second.loader.isMapped file) (call : Call) :
    (entryVisit setup first (.image file) call).Resembles
      (entryVisit setup second (.image file) call) := by
  obtain ⟨hparty, hcall⟩ := entryVisit_party setup first (.image file) call
  obtain ⟨hparty', hcall'⟩ := entryVisit_party setup second (.image file) call
  have halive : first.Alive (.image file) := hfirst
  have halive' : second.Alive (.image file) := hsecond
  obtain ⟨hplain, hnotes, hstatics⟩ := entryVisit_of_analyzer hprogram halive call
  obtain ⟨hplain', hnotes', hstatics'⟩ := entryVisit_of_analyzer hprogram halive' call
  obtain ⟨hanswer, hnoted, hslot⟩ := analyzerEnding_of_slot hforgets (h.slots file) call
  refine ⟨hparty.trans hparty'.symm, hcall.trans hcall'.symm, ?_, ?_, ?_, ?_, fun other => ?_⟩
  · rw [show (entryVisit setup first (.image file) call).reaction = _ from hplain,
      show (entryVisit setup second (.image file) call).reaction = _ from hplain']
    exact congrArg Reaction.answer hanswer
  · rw [hnotes, hnotes']
    exact congrArg (List.map (noteObservation (.image file))) hnoted
  · rw [received_entryVisit, received_entryVisit, h.received]
  · rw [linked_entryVisit_image, linked_entryVisit_image, h.linked]
  · show ((entryVisit setup first (.image file) call).host.statics (.image other)).slot =
      ((entryVisit setup second (.image file) call).host.statics (.image other)).slot
    by_cases hother : other = file
    · subst hother
      rw [hstatics, hstatics']
      exact hslot
    · have hne : Code.image other ≠ Code.image file := fun heq => hother (Code.image.inj heq)
      rw [statics_entryVisit_of_ne hne, statics_entryVisit_of_ne hne]
      exact h.slots other

/-- The same call to the same linked unit. -/
theorem entryVisit_resembles_of_linked (h : Peers first second) (unit : String) (call : Call) :
    (entryVisit setup first (.linked unit) call).Resembles
      (entryVisit setup second (.linked unit) call) := by
  have hstatics : first.linked unit = second.linked unit := congrFun h.linked unit
  unfold entryVisit
  cases setup.program (.linked unit) with
  | coded entryCode =>
    refine ⟨rfl, rfl, ?_, rfl, h.received, ?_, h.slots⟩
    · show entryCode.reaction (first.linked unit).received call = _
      rw [hstatics]
      rfl
    · simp only [receiveCode, modifyStatics, h.linked]
  | analyzer analyzer =>
    refine ⟨rfl, rfl, ?_, ?_, h.received, ?_, h.slots⟩ <;>
      simp only [receiveCode, modifyStatics, statics, h.linked]

/-- The same demand to engines over the same code.  A file has to be mapped in both processes, with a
forgetful analyzer in it. -/
theorem visitOf_resembles (h : Peers first second) {engine other : Engine} {demand : Demand}
    {visit visit' : Visit} (hvisit : visitOf setup first engine demand = some visit)
    (hvisit' : visitOf setup second other demand = some visit')
    (hparty : partyOf engine = partyOf other)
    (himage : ∀ file, partyOf engine = some (.code (.image file)) →
      (∃ analyzer, setup.program (.image file) = .analyzer analyzer ∧ analyzer.Forgetful) ∧
        first.loader.isMapped file ∧ second.loader.isMapped file) : visit.Resembles visit' := by
  cases engine with
  | inert => cases hvisit
  | custom name =>
    obtain rfl : Engine.custom name = other := by
      cases other with
      | custom name' => simpa [partyOf] using hparty
      | _ => simp [partyOf] at hparty
    obtain rfl := Option.some.inj hvisit
    obtain rfl := Option.some.inj hvisit'
    exact customVisit_resembles h name demand
  | native native =>
    have hother : partyOf other = some (.code native.code) := hparty.symm
    obtain rfl := eq_entryVisit_of_partyOf hvisit rfl
    obtain rfl := eq_entryVisit_of_partyOf hvisit' hother
    cases hcode : native.code with
    | linked unit => exact entryVisit_resembles_of_linked h unit demand.call
    | image file =>
      obtain ⟨⟨analyzer, hprogram, hforgets⟩, hfirst, hsecond⟩ :=
        himage file (by rw [partyOf, hcode])
      exact entryVisit_resembles_of_image h hprogram hforgets hfirst hsecond demand.call

/-- Engines over the same code are both visited, or none of them is. -/
theorem visitOf_rel (h : Peers first second) {engine other : Engine} (demand : Demand)
    (hparty : partyOf engine = partyOf other)
    (himage : ∀ file, partyOf engine = some (.code (.image file)) →
      (∃ analyzer, setup.program (.image file) = .analyzer analyzer ∧ analyzer.Forgetful) ∧
        first.loader.isMapped file ∧ second.loader.isMapped file) :
    Option.Rel Visit.Resembles (visitOf setup first engine demand)
      (visitOf setup second other demand) := by
  cases hvisit : visitOf setup first engine demand with
  | none =>
    obtain rfl := (visitOf_eq_none_iff setup).mp hvisit
    obtain rfl : other = .inert := by
      cases other with
      | inert => rfl
      | _ => simp [partyOf] at hparty
    exact .none
  | some visit =>
    cases hvisit' : visitOf setup second other demand with
    | none =>
      obtain rfl := (visitOf_eq_none_iff setup).mp hvisit'
      cases engine with
      | inert => cases hvisit
      | _ => simp [partyOf] at hparty
    | some visit' => exact .some (visitOf_resembles h hvisit hvisit' hparty himage)

/-- The same call without a bridge. -/
theorem directVisit_rel (h : Peers first second) (step : Step) :
    Option.Rel Visit.Resembles (step.directVisit? setup first) (step.directVisit? setup second) := by
  cases step with
  | engine name request =>
    simp only [Step.directVisit?]
    cases request.demand? with
    | none => exact .none
    | some demand =>
      exact visitOf_rel h demand rfl fun file himage =>
        (partyOf_engine_ne_image setup name file himage).elim
  | entry name call =>
    cases hengine : setup.engine name with
    | native native =>
      simp only [Step.directVisit?, hengine]
      obtain ⟨code, module⟩ := native
      cases code with
      | linked unit => exact .some (entryVisit_resembles_of_linked h unit call)
      | image file => exact (partyOf_engine_ne_image setup name file (by rw [hengine]; rfl)).elim
    | _ =>
      simp only [Step.directVisit?, hengine]
      exact .none
  | _ => exact .none

end Host
end FailOpen
