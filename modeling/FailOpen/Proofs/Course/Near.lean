import FailOpen.Proofs.Bridge.Attempt
import FailOpen.Proofs.Course.Redacted

/-!
# Operations that differ in secrets

Two processes that differ in nothing but secrets take up operations that differ in nothing but
secrets.  What they do until they call code is the same, so they call the same code, if any.  What the
code does with the secrets is up to it; but if it gives the same answers, and makes the same remarks,
then the processes still differ in nothing but secrets.

* `Visit.Near` says this of two calls.
* `Goes.near` is the heart of the matter: the two operations go the same way.
* `directVisit?_near` and `reads_near` say the same of steps that are no operations.
-/

namespace FailOpen
namespace Host

/-! ## Remarks -/

/-- What an analyzer lets be known besides the answer of its entry point. -/
inductive Remark where
  | refused (reason : String)
  | panicked
  deriving DecidableEq, Repr

def Observation.remark? : Observation Report → Option Remark
  | .analyzerLogged _ event =>
      match event with
      | .started => none
      | .startupFailed reason => some (.refused reason)
      | .startupPanicked | .ingestPanicked => some .panicked
  | _ => none

/-- The remarks that analyzers have made in an output. -/
def remarksIn (output : List (Observation Report)) : List Remark :=
  output.filterMap Observation.remark?

theorem remarksIn_cons (observation : Observation Report) (output : List (Observation Report)) :
    remarksIn (observation :: output) = observation.remark?.toList ++ remarksIn output := by
  unfold remarksIn
  rw [List.filterMap_cons]
  cases observation.remark? <;> rfl

theorem remarksIn_append (first second : List (Observation Report)) :
    remarksIn (first ++ second) = remarksIn first ++ remarksIn second :=
  List.filterMap_append

/-! ## Code of the same kind -/

/-- Code of the same kind.  The entry points around an analyzer are not written by hand. -/
inductive Program.Resembles : Program → Program → Prop
  | coded {code code' : EntryCode} : Resembles (.coded code) (.coded code')
  | analyzer {inner inner' : Analyzer} : Resembles (.analyzer inner) (.analyzer inner')

/-- Two processes with the same engines, the same names in their libraries, and code of the same
kind, on the same system.  What the code answers may differ in everything. -/
structure Setup.Resembles (setup other : Setup) : Prop extends setup.Agrees other where
  program : ∀ code, (setup.program code).Resembles (other.program code)
  registers : setup.registersAtExit = other.registersAtExit

theorem Setup.Resembles.refl (setup : Setup) : setup.Resembles setup where
  supplied _ := rfl
  finds _ := rfl
  program code := by
    cases setup.program code with
    | coded entryCode => exact .coded
    | analyzer inner => exact .analyzer
  registers := rfl

/-! ## Entry points around analyzers -/

/-- What an analyzer answers itself when its entry point is called, if the entry point asks it. -/
inductive OwnAnswer where
  | unasked
  | start (outcome : Outcome (Except String Unit))
  | block (outcome : Outcome Bool)
  | ingest (outcome : Outcome Unit)

def ownAnswer (inner : Analyzer) (memory : Analyzer.Memory) (call : Call) : OwnAnswer :=
  match memory.slot, call with
  | none, .startup args => .start (inner.start memory.asked args.config)
  | some started, .block exchange => .block (inner.block memory.asked started exchange.read)
  | some started, .ingest trace => .ingest (inner.ingest memory.asked started trace.read)
  | _, _ => .unasked

/-- What is observed of an entry point around an analyzer. -/
def notesOf (code : Code) (ending : Analyzer.Ending Answer) : List (Observation Report) :=
  ending.notes.map (noteObservation code)

/-- Entry points that leave the same behind, but for the secrets. -/
structure LeaveAlike (code : Code) (ending ending' : Analyzer.Ending Answer) : Prop where
  notes : redactedIn (notesOf code ending) = redactedIn (notesOf code ending')
  memory : ending.toMemory.redacted = ending'.toMemory.redacted

section

variable (inner inner' : Analyzer) (code : Code) {memory memory' : Analyzer.Memory}
  (hmemory : memory.redacted = memory'.redacted)

include hmemory

/-- Both slots are empty, or both are filled. -/
theorem slots_cases : (memory.slot = none ∧ memory'.slot = none) ∨
    ∃ started started', memory.slot = some started ∧ memory'.slot = some started' ∧
      started.redacted = started'.redacted := by
  have hslot : memory.slot.map Analyzer.Instance.redacted =
      memory'.slot.map Analyzer.Instance.redacted := congrArg Analyzer.Memory.slot hmemory
  cases hfirst : memory.slot <;> cases hsecond : memory'.slot <;> rw [hfirst, hsecond] at hslot
  case none.none => exact .inl ⟨rfl, rfl⟩
  case none.some => cases hslot
  case some.none => cases hslot
  case some.some started started' => exact .inr ⟨started, started', rfl, rfl, Option.some.inj hslot⟩

/-- One more request leaves the memories the same but for the secrets, if it is the same itself. -/
theorem asking_redacted {request request' : Analyzer.Request}
    (hrequest : request.redacted = request'.redacted) {slot slot' : Option Analyzer.Instance}
    (hslot : slot.map Analyzer.Instance.redacted = slot'.map Analyzer.Instance.redacted) :
    (⟨memory.asked ++ [request], slot⟩ : Analyzer.Memory).redacted =
      (⟨memory'.asked ++ [request'], slot'⟩ : Analyzer.Memory).redacted := by
  have hasked : memory.asked.map Analyzer.Request.redacted =
      memory'.asked.map Analyzer.Request.redacted := congrArg Analyzer.Memory.asked hmemory
  unfold Analyzer.Memory.redacted
  rw [List.map_append, List.map_append, hasked, hslot, List.map_singleton, List.map_singleton,
    hrequest]

/-- What a started instance receives leaves it the same but for the secrets. -/
theorem receiving_redacted {started started' : Analyzer.Instance}
    (hstarted : started.redacted = started'.redacted) (request : Analyzer.Request) :
    (⟨memory.asked ++ [request], some (started.receive request)⟩ : Analyzer.Memory).redacted =
      (⟨memory'.asked ++ [request], some (started'.receive request)⟩ :
        Analyzer.Memory).redacted := by
  refine asking_redacted hmemory rfl (congrArg some ?_)
  rw [Analyzer.Instance.receive_redacted, Analyzer.Instance.receive_redacted, hstarted]

theorem leaveAlike_startup {args args' : Startup.RawArguments}
    (hargs : args.redacted = args'.redacted)
    (hown : ownAnswer inner memory (.startup args) = ownAnswer inner' memory' (.startup args')) :
    let ending := analyzerEnding inner memory (.startup args)
    let ending' := analyzerEnding inner' memory' (.startup args')
    ending.answer = ending'.answer ∧ LeaveAlike code ending ending' := by
  have hconfig : args.config.redacted = args'.config.redacted := by
    rw [← Startup.RawArguments.config_redacted, hargs, Startup.RawArguments.config_redacted]
  rcases slots_cases hmemory with ⟨hslot, hslot'⟩ | ⟨started, started', hslot, hslot', -⟩
  · have houtcome : inner.start memory.asked args.config = inner'.start memory'.asked args'.config :=
      by simpa [ownAnswer, hslot, hslot'] using hown
    have hrequest : (Analyzer.Request.start args.config).redacted =
        (Analyzer.Request.start args'.config).redacted := congrArg Analyzer.Request.start hconfig
    have hasked : (Observation.analyzed code (.start args.config)).redacted =
        (Observation.analyzed code (.start args'.config)).redacted :=
      congrArg (Observation.analyzed code) hrequest
    have hstarted : ({ config := args.config } : Analyzer.Instance).redacted =
        ({ config := args'.config } : Analyzer.Instance).redacted :=
      congrArg (fun config => ({ config } : Analyzer.Instance)) hconfig
    unfold analyzerEnding Analyzer.startupEntry
    simp only [hslot, hslot', houtcome]
    rcases inner'.start memory'.asked args'.config with (reason | _) | _
    · exact ⟨rfl, congrArg (· :: _) hasked, asking_redacted hmemory hrequest rfl⟩
    · exact ⟨rfl, congrArg (· :: _) hasked,
        asking_redacted hmemory hrequest (congrArg some hstarted)⟩
    · exact ⟨rfl, congrArg (· :: _) hasked, asking_redacted hmemory hrequest rfl⟩
  · unfold analyzerEnding Analyzer.startupEntry
    simp only [hslot, hslot']
    exact ⟨trivial, rfl, hmemory⟩

/-- What a decision leaves behind does not depend on how it turns out. -/
theorem leaveAlike_block (exchange : Traffic.Record.Exchange) :
    LeaveAlike code (analyzerEnding inner memory (.block exchange))
      (analyzerEnding inner' memory' (.block exchange)) := by
  unfold analyzerEnding Analyzer.blockEntry
  rcases slots_cases hmemory with ⟨hslot, hslot'⟩ | ⟨started, started', hslot, hslot', hstarted⟩
  · simp only [hslot, hslot']
    exact ⟨rfl, hmemory⟩
  · simp only [hslot, hslot']
    exact ⟨rfl, receiving_redacted hmemory hstarted _⟩

theorem answer_block {exchange : Traffic.Record.Exchange}
    (hown : ownAnswer inner memory (.block exchange) = ownAnswer inner' memory' (.block exchange)) :
    (analyzerEnding inner memory (.block exchange)).answer =
      (analyzerEnding inner' memory' (.block exchange)).answer := by
  unfold analyzerEnding Analyzer.blockEntry
  rcases slots_cases hmemory with ⟨hslot, hslot'⟩ | ⟨started, started', hslot, hslot', -⟩
  · simp only [hslot, hslot']
  · have houtcome : inner.block memory.asked started exchange.read =
        inner'.block memory'.asked started' exchange.read := by
      simpa [ownAnswer, hslot, hslot'] using hown
    simp only [hslot, hslot', houtcome]

theorem leaveAlike_ingest {trace : Traffic.Record.Trace}
    (hown : ownAnswer inner memory (.ingest trace) = ownAnswer inner' memory' (.ingest trace)) :
    LeaveAlike code (analyzerEnding inner memory (.ingest trace))
      (analyzerEnding inner' memory' (.ingest trace)) := by
  unfold analyzerEnding Analyzer.ingestEntry
  rcases slots_cases hmemory with ⟨hslot, hslot'⟩ | ⟨started, started', hslot, hslot', hstarted⟩
  · simp only [hslot, hslot']
    exact ⟨rfl, hmemory⟩
  · have houtcome : inner.ingest memory.asked started trace.read =
        inner'.ingest memory'.asked started' trace.read := by
      simpa [ownAnswer, hslot, hslot'] using hown
    simp only [hslot, hslot', houtcome]
    exact ⟨rfl, receiving_redacted hmemory hstarted _⟩

/-- An entry point answers, logs and leaves behind what its analyzer calls for, whatever the secrets
are. -/
theorem leaveAlike_of_ownAnswer {call call' : Call} (hcall : call.redacted = call'.redacted)
    (hown : ownAnswer inner memory call = ownAnswer inner' memory' call') :
    let ending := analyzerEnding inner memory call
    let ending' := analyzerEnding inner' memory' call'
    ending.answer = ending'.answer ∧ LeaveAlike code ending ending' := by
  cases call with
  | startup args =>
    cases call' with
    | startup args' =>
      exact leaveAlike_startup inner inner' code hmemory (Call.startup.inj hcall) hown
    | _ => cases hcall
  | block exchange =>
    cases call' with
    | block exchange' =>
      obtain rfl := Call.block.inj hcall
      exact ⟨answer_block inner inner' hmemory hown,
        leaveAlike_block inner inner' code hmemory exchange⟩
    | _ => cases hcall
  | ingest trace =>
    cases call' with
    | ingest trace' =>
      obtain rfl := Call.ingest.inj hcall
      exact ⟨rfl, leaveAlike_ingest inner inner' code hmemory hown⟩
    | _ => cases hcall

/-- The answer shows whether an analyzer has accepted, and the remark why it has not. -/
theorem ownAnswer_startup {args args' : Startup.RawArguments}
    (hanswer : (analyzerEnding inner memory (.startup args)).answer =
      (analyzerEnding inner' memory' (.startup args')).answer)
    (hremarks : remarksIn (notesOf code (analyzerEnding inner memory (.startup args))) =
      remarksIn (notesOf code (analyzerEnding inner' memory' (.startup args')))) :
    ownAnswer inner memory (.startup args) = ownAnswer inner' memory' (.startup args') := by
  unfold ownAnswer
  rcases slots_cases hmemory with ⟨hslot, hslot'⟩ | ⟨started, started', hslot, hslot', -⟩
  · simp only [hslot, hslot']
    refine congrArg OwnAnswer.start ?_
    revert hanswer hremarks
    unfold notesOf analyzerEnding Analyzer.startupEntry
    simp only [hslot, hslot']
    rcases inner.start memory.asked args.config with (reason | _) | _ <;>
      rcases inner'.start memory'.asked args'.config with (reason' | _) | _ <;>
        simp [remarksIn_cons, Observation.remark?, noteObservation]
  · simp only [hslot, hslot']

/-- The remarks show whether an analyzer has panicked. -/
theorem ownAnswer_ingest {trace : Traffic.Record.Trace}
    (hremarks : remarksIn (notesOf code (analyzerEnding inner memory (.ingest trace))) =
      remarksIn (notesOf code (analyzerEnding inner' memory' (.ingest trace)))) :
    ownAnswer inner memory (.ingest trace) = ownAnswer inner' memory' (.ingest trace) := by
  unfold ownAnswer
  rcases slots_cases hmemory with ⟨hslot, hslot'⟩ | ⟨started, started', hslot, hslot', -⟩
  · simp only [hslot, hslot']
  · simp only [hslot, hslot']
    refine congrArg OwnAnswer.ingest ?_
    revert hremarks
    unfold notesOf analyzerEnding Analyzer.ingestEntry
    simp only [hslot, hslot']
    rcases inner.ingest memory.asked started trace.read with _ | _ <;>
      rcases inner'.ingest memory'.asked started' trace.read with _ | _ <;>
        simp [remarksIn_cons, Observation.remark?, noteObservation]

/-- What entry points leave behind is settled by their answers and the remarks. -/
theorem leaveAlike_of_remarks {call call' : Call} (hcall : call.redacted = call'.redacted)
    (hanswer : (analyzerEnding inner memory call).answer =
      (analyzerEnding inner' memory' call').answer)
    (hremarks : remarksIn (notesOf code (analyzerEnding inner memory call)) =
      remarksIn (notesOf code (analyzerEnding inner' memory' call'))) :
    LeaveAlike code (analyzerEnding inner memory call) (analyzerEnding inner' memory' call') := by
  cases call with
  | startup args =>
    cases call' with
    | startup args' =>
      have hown := ownAnswer_startup inner inner' code hmemory hanswer hremarks
      exact (leaveAlike_startup inner inner' code hmemory (Call.startup.inj hcall) hown).2
    | _ => cases hcall
  | block exchange =>
    cases call' with
    | block exchange' =>
      obtain rfl := Call.block.inj hcall
      exact leaveAlike_block inner inner' code hmemory exchange
    | _ => cases hcall
  | ingest trace =>
    cases call' with
    | ingest trace' =>
      obtain rfl := Call.ingest.inj hcall
      exact leaveAlike_ingest inner inner' code hmemory
        (ownAnswer_ingest inner inner' code hmemory hremarks)
    | _ => cases hcall

end

/-! ## Visits -/

/-- Two calls that differ in secrets.  They reach the same code; and once it has answered them alike,
with the same remarks, nothing but the secrets tells their processes apart. -/
structure Visit.Near (visit visit' : Visit) : Prop where
  party : visit.party = visit'.party
  call : visit.call.redacted = visit'.call.redacted
  settles : ∀ run run', visit.answer run = visit'.answer run' →
    remarksIn visit.notes = remarksIn visit'.notes →
      redactedIn visit.notes = redactedIn visit'.notes ∧ visit.host.redacted = visit'.host.redacted

section

variable {setup setup' : Setup} {host host' : Host}

/-- An engine is asked to start by the same call but for the secrets. -/
theorem startup_call_near {args args' : Startup.Arguments} (h : args.redacted = args'.redacted) :
    (Demand.startup args).call.redacted = (Demand.startup args').call.redacted := by
  show Call.startup args.raw.redacted = .startup args'.raw.redacted
  rw [← args.raw_redacted, h, args'.raw_redacted]

theorem customVisit_near (hhost : host.redacted = host'.redacted) (name : String)
    {demand demand' : Demand} (hcall : demand.call.redacted = demand'.call.redacted) :
    (customVisit setup host name demand).Near (customVisit setup' host' name demand') where
  party := rfl
  call := hcall
  settles _ _ _ _ := by
    refine ⟨rfl, ?_⟩
    unfold customVisit
    rw [receiveCustom_redacted, receiveCustom_redacted, hhost, hcall]

theorem entryVisit_near (hsetup : setup.Resembles setup') (hhost : host.redacted = host'.redacted)
    (code : Code) {call call' : Call} (hcall : call.redacted = call'.redacted) :
    (entryVisit setup host code call).Near (entryVisit setup' host' code call') := by
  have hentered : (host.receiveCode code call).redacted = (host'.receiveCode code call').redacted := by
    rw [receiveCode_redacted, receiveCode_redacted, hhost, hcall]
  unfold entryVisit
  have hprogram := hsetup.program code
  revert hprogram
  cases setup.program code with
  | coded entryCode =>
    cases setup'.program code with
    | coded entryCode' => exact fun _ => ⟨rfl, hcall, fun _ _ _ _ => ⟨rfl, hentered⟩⟩
    | analyzer inner' => exact fun h => by cases h
  | analyzer inner =>
    cases setup'.program code with
    | coded entryCode' => exact fun h => by cases h
    | analyzer inner' =>
      refine fun _ => ⟨rfl, hcall, fun _ _ hanswer hremarks => ?_⟩
      have hstatics : ((host.receiveCode code call).statics code).redacted =
          ((host'.receiveCode code call').statics code).redacted := by
        rw [← statics_redacted, ← statics_redacted, hentered]
      obtain ⟨hnotes, hmemory⟩ := leaveAlike_of_remarks inner inner' code
        (congrArg Loader.Statics.toMemory hstatics) hcall hanswer hremarks
      refine ⟨hnotes, ?_⟩
      dsimp only
      rw [remember_redacted, remember_redacted, hentered, hmemory]

/-- The same engine is reached, or none. -/
theorem visitOf_near (hsetup : setup.Resembles setup') (hhost : host.redacted = host'.redacted)
    (engine : Engine) {demand demand' : Demand}
    (hcall : demand.call.redacted = demand'.call.redacted) :
    Option.Rel Visit.Near (visitOf setup host engine demand)
      (visitOf setup' host' engine demand') := by
  cases engine with
  | inert => exact .none
  | custom name => exact .some (customVisit_near hhost name hcall)
  | native native => exact .some (entryVisit_near hsetup hhost native.code hcall)

theorem exists_visitOf_near (hsetup : setup.Resembles setup')
    (hhost : host.redacted = host'.redacted) {engine : Engine} {demand demand' : Demand}
    (hcall : demand.call.redacted = demand'.call.redacted) {visit : Visit}
    (hvisit : visitOf setup host engine demand = some visit) :
    ∃ visit', visitOf setup' host' engine demand' = some visit' ∧ visit.Near visit' := by
  have hrel := visitOf_near hsetup hhost engine hcall
  rw [hvisit] at hrel
  exact exists_of_rel_some hrel

/-! ## The courses of operations -/

/-- Two courses that differ in secrets. -/
inductive Course.Near : Course → Course → Prop
  | pass {next next' : Host} (h : next.redacted = next'.redacted) : Near (.pass next) (.pass next')
  | replace {name : BridgeName} {next : Bridge.State} {start start' : Host}
      {notes : List (Observation Report)} {b : Bool} (h : start.redacted = start'.redacted) :
      Near (.replace name next start notes b) (.replace name next start' notes b)
  | reach {frame : Frame} {visit visit' : Visit} (h : visit.Near visit') :
      Near (.reach frame visit) (.reach frame visit')

variable {operation operation' : Operation}

theorem exists_of_map_eq {α β : Type} {f : α → β} {o o' : Option α} (h : o.map f = o'.map f) {a : α}
    (ha : o = some a) : ∃ a', o' = some a' ∧ f a' = f a := by
  subst ha
  exact Option.map_eq_some_iff.mp h.symm

theorem exists_loads?_near (hoperation : operation.redacted = operation'.redacted) {path : String}
    {args : Startup.Arguments} (hloads : operation.loads? = some (path, args)) :
    ∃ args', operation'.loads? = some (path, args') ∧
      (Demand.startup args).call.redacted = (Demand.startup args').call.redacted := by
  have hmap := congrArg Operation.loads? hoperation
  rw [Operation.loads?_redacted, Operation.loads?_redacted] at hmap
  obtain ⟨⟨path', args'⟩, hloads', hsame⟩ := exists_of_map_eq hmap hloads
  obtain ⟨rfl, hargs⟩ := Prod.mk.inj hsame
  exact ⟨args', hloads', startup_call_near hargs.symm⟩

theorem exists_supplies?_near (hsetup : setup.Resembles setup')
    (hoperation : operation.redacted = operation'.redacted) {engine : Engine}
    {args : Startup.Arguments} (hsupplies : operation.supplies? setup = some (engine, args)) :
    ∃ args', operation'.supplies? setup' = some (engine, args') ∧
      (Demand.startup args).call.redacted = (Demand.startup args').call.redacted := by
  have hmap := congrArg (Operation.supplies? setup) hoperation
  rw [Operation.supplies?_redacted, Operation.supplies?_redacted] at hmap
  obtain ⟨⟨engine', args'⟩, hsupplies', hsame⟩ := exists_of_map_eq hmap hsupplies
  obtain ⟨rfl, hargs⟩ := Prod.mk.inj hsame
  rw [← hsetup.toAgrees.supplies?_eq] at hsupplies'
  exact ⟨args', hsupplies', startup_call_near hargs.symm⟩

theorem load_near {loader loader' : Loader} (h : loader.redacted = loader'.redacted)
    (path : String) :
    (∀ {fault}, loader.load path = .error fault → loader'.load path = .error fault) ∧
      ∀ {module next}, loader.load path = .ok (module, next) →
        ∃ next', loader'.load path = .ok (module, next') ∧ next.redacted = next'.redacted := by
  have hload := congrArg (Loader.load · path) h
  simp only [Loader.load_redacted] at hload
  constructor
  · intro fault hfault
    rw [hfault] at hload
    cases hload' : loader'.load path with
    | error fault' =>
      rw [hload'] at hload
      exact congrArg _ (Except.error.inj hload).symm
    | ok found =>
      rw [hload'] at hload
      cases hload
  · intro module next hok
    rw [hok] at hload
    cases hload' : loader'.load path with
    | error fault' =>
      rw [hload'] at hload
      cases hload
    | ok found =>
      obtain ⟨module', next'⟩ := found
      rw [hload'] at hload
      obtain ⟨rfl, hnext⟩ := Prod.mk.inj (Except.ok.inj hload)
      exact ⟨next', rfl, hnext⟩

/-- **Operations that differ in secrets go the same way.** -/
theorem Goes.near (hsetup : setup.Resembles setup') (hhost : host.redacted = host'.redacted)
    (hoperation : operation.redacted = operation'.redacted) {name : BridgeName} {course : Course}
    (hgoes : Goes setup host name operation course) :
    ∃ course', Goes setup' host' name operation' course' ∧ course.Near course' := by
  have hloader : host.loader.redacted = host'.loader.redacted := congrArg Host.loader hhost
  have hbridge : host.bridge name = host'.bridge name := by
    rw [← bridge_redacted, hhost, bridge_redacted]
  have hobserved : ∀ notes, (host.observe notes).redacted = (host'.observe notes).redacted := by
    intro notes
    rw [observe_redacted, observe_redacted, hhost]
  have hheld : ∀ path module {next next' : Loader}, next.redacted = next'.redacted →
      ((host.loaded path next).holding module).redacted =
        ((host'.loaded path next').holding module).redacted := by
    intro path module next next' hnext
    rw [holding_redacted, loaded_redacted, hhost, hnext, ← loaded_redacted, ← holding_redacted]
  have hunresolved : ∀ path (module : Loader.Module) {next next' : Loader},
      next.redacted = next'.redacted →
        ((host.loaded path next).holding (some module)).loader.unresolved?
            (setup.library module.file).finds module =
          ((host'.loaded path next').holding (some module)).loader.unresolved?
            (setup'.library module.file).finds module := by
    intro path module next next' hnext
    have hloaders := congrArg Host.loader (hheld path (some module) hnext)
    rw [← Loader.unresolved?_redacted, hsetup.finds]
    exact (congrArg (Loader.unresolved? · _ module) hloaders).trans
      (Loader.unresolved?_redacted _ _ module)
  cases hgoes with
  | @loadFails path args fault hloads hload =>
    obtain ⟨args', hloads', -⟩ := exists_loads?_near hoperation hloads
    have hload' := (load_near hloader path).1 hload
    exact ⟨_, .loadFails hloads' hload', .replace (hobserved _)⟩
  | @lacks path args module loader missing hloads hload hmissing =>
    obtain ⟨args', hloads', -⟩ := exists_loads?_near hoperation hloads
    obtain ⟨loader', hload', hnext⟩ := (load_near hloader path).2 hload
    rw [hunresolved path module hnext] at hmissing
    refine ⟨_, .lacks hloads' hload' hmissing, .replace ?_⟩
    rw [observe_redacted, observe_redacted, lettingGo_redacted, lettingGo_redacted, hheld _ _ hnext]
  | @startsLoaded path args module loader visit hloads hload hcomplete hvisit =>
    obtain ⟨args', hloads', hcall⟩ := exists_loads?_near hoperation hloads
    obtain ⟨loader', hload', hnext⟩ := (load_near hloader path).2 hload
    rw [hunresolved path module hnext] at hcomplete
    obtain ⟨visit', hvisit', hnear⟩ :=
      exists_visitOf_near hsetup (hheld path (some module) hnext) hcall hvisit
    exact ⟨_, .startsLoaded hloads' hload' hcomplete hvisit', .reach hnear⟩
  | refuses hsupplies =>
    obtain ⟨args', hsupplies', -⟩ := exists_supplies?_near hsetup hoperation hsupplies
    exact ⟨_, .refuses hsupplies', .replace (hobserved _)⟩
  | startsSupplied hsupplies hvisit =>
    obtain ⟨args', hsupplies', hcall⟩ := exists_supplies?_near hsetup hoperation hsupplies
    obtain ⟨visit', hvisit', hnear⟩ := exists_visitOf_near hsetup hhost hcall hvisit
    exact ⟨_, .startsSupplied hsupplies' hvisit', .reach hnear⟩
  | @disables reason hdisable =>
    subst hdisable
    cases operation' with
    | disable reason' =>
      cases hoperation
      exact ⟨_, .disables rfl, .replace (hobserved _)⟩
    | _ => cases hoperation
  | unheard hdemand hengine =>
    rw [← Operation.demand?_redacted, hoperation, Operation.demand?_redacted] at hdemand
    rw [hbridge] at hengine
    exact ⟨_, .unheard hdemand hengine, .pass (hobserved _)⟩
  | @forwards engine demand visit hdemand hengine hvisit =>
    rw [← Operation.demand?_redacted, hoperation, Operation.demand?_redacted] at hdemand
    rw [hbridge] at hengine
    have hholding : (host.holding engine.module?).redacted =
        (host'.holding engine.module?).redacted := by
      rw [holding_redacted, holding_redacted, hhost]
    obtain ⟨visit', hvisit', hnear⟩ := exists_visitOf_near hsetup hholding rfl hvisit
    exact ⟨_, .forwards hdemand hengine hvisit', .reach hnear⟩
  | shutsDown hshutdown =>
    subst hshutdown
    cases operation' with
    | shutdown =>
      rw [hbridge]
      exact ⟨_, .shutsDown rfl, .replace hhost⟩
    | _ => cases hoperation

/-! ## Steps that are no operations -/

variable {step step' : Step}

theorem directVisit?_near (hsetup : setup.Resembles setup') (hhost : host.redacted = host'.redacted)
    (hstep : step.redacted = step'.redacted) :
    Option.Rel Visit.Near (step.directVisit? setup host) (step'.directVisit? setup' host') := by
  cases step with
  | engine name request =>
    cases step' with
    | engine name' request' =>
      obtain ⟨rfl, hrequest⟩ := Step.engine.inj hstep
      unfold Step.directVisit?
      dsimp only
      rw [hsetup.toAgrees.engine_eq]
      cases request with
      | startup args =>
        cases request' with
        | startup args' =>
          exact visitOf_near hsetup hhost _ (startup_call_near (Direct.startup.inj hrequest))
        | _ => cases hrequest
      | block exchange =>
        cases request' with
        | block exchange' =>
          obtain rfl := Direct.block.inj hrequest
          exact visitOf_near hsetup hhost _ rfl
        | _ => cases hrequest
      | ingest trace =>
        cases request' with
        | ingest trace' =>
          obtain rfl := Direct.ingest.inj hrequest
          exact visitOf_near hsetup hhost _ rfl
        | _ => cases hrequest
      | _ => cases request' <;> first | exact .none | cases hrequest
    | _ => cases hstep
  | entry name call =>
    cases step' with
    | entry name' call' =>
      obtain ⟨rfl, hcall⟩ := Step.entry.inj hstep
      unfold Step.directVisit?
      dsimp only
      rw [hsetup.toAgrees.engine_eq]
      cases setup.engine name with
      | native native => exact .some (entryVisit_near hsetup hhost native.code hcall)
      | _ => exact .none
    | _ => cases hstep
  | _ => cases step' <;> first | exact .none | cases hstep

theorem Step.reads_redacted (setup : Setup) (step : Step) (host : Host) :
    step.redacted.reads setup host.redacted = step.reads setup host := by
  cases step with
  | display name => exact congrArg (fun bridge => Result.text (bridge name).shown) host.bridge_redacted
  | isMapped file => exact congrArg Result.flag (host.loader.isMapped_redacted file)
  | ingestedByUnits units =>
    have hunit : ∀ unit, (host.linked unit).redacted.ingested = (host.linked unit).ingested :=
      fun unit => (host.linked unit).ingested_redacted
    simp only [redacted, reads, Host.redacted, hunit]
  | ingestedByFile file =>
    have hfile := host.loader.statics_redacted file
    simp only [redacted, reads, Host.redacted, hfile, Loader.Statics.ingested_redacted]
  | engine name request => cases request <;> rfl
  | _ => rfl

theorem reads_near (hsetup : setup.Resembles setup') (hhost : host.redacted = host'.redacted)
    (hstep : step.redacted = step'.redacted) : step.reads setup host = step'.reads setup' host' := by
  have hreads : step'.reads setup' host' = step'.reads setup host' := by
    cases step' with
    | engine name request => cases request <;> simp only [Step.reads, hsetup.toAgrees.engine_eq]
    | _ => rfl
  rw [hreads, ← Step.reads_redacted, hstep, hhost, Step.reads_redacted]

end

end Host
end FailOpen
