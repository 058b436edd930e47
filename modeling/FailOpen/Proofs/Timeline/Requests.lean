import FailOpen.Proofs.Course.Slots
import FailOpen.Proofs.Timeline.Lawful
import FailOpen.Proofs.Timeline.Runs

/-!
# What an analyzer is asked in a run

The reports of a run show every request that has reached an analyzer, at whatever depth.
`requestsOf` lists those to the analyzer of some code, in order, and `memoryKept_of_run` says that they
decide the memory of that code: after the run it is what the requests have made of it.

This holds as long as the data of the code last.  Those of a linked unit always do.  Those of a file
do while some bridge holds a module of it, which `Pinned` says of the states that a given bridge
takes.
-/

namespace FailOpen
namespace Host

open Analyzer (Request)

/-! ## Requests in reports -/

mutual

/-- The requests made in a step. -/
def Report.requests (code : Code) : Report → List Request
  | ⟨_, _, output, _, _⟩ => requestsIn code output

/-- The requests in an output. -/
def requestsIn (code : Code) : List (Observation Report) → List Request
  | [] => []
  | observation :: output => observation.requests code ++ requestsIn code output

/-- The request in an observation, or those made inside a call. -/
def Observation.requests (code : Code) : Observation Report → List Request
  | .called _ _ (some reports) _ => requestsOf code reports
  | .analyzed other request => if other = code then [request] else []
  | _ => []

/-- The requests made in some steps, those inside calls included. -/
def requestsOf (code : Code) : List Report → List Request
  | [] => []
  | report :: reports => report.requests code ++ requestsOf code reports

end

variable {code : Code}

theorem Report.requests_eq (report : Report) :
    report.requests code = requestsIn code report.output := by
  cases report
  rfl

@[simp] theorem requestsIn_append (first second : List (Observation Report)) :
    requestsIn code (first ++ second) = requestsIn code first ++ requestsIn code second := by
  induction first with
  | nil => rfl
  | cons observation first ih => simp [requestsIn, ih, List.append_assoc]

/-- Where nobody is called, the requests are those that can be seen. -/
theorem requestsIn_of_quiet {output : List (Observation Report)} (h : Quiet output) :
    requestsIn code output = output.filterMap (Observation.request? code) := by
  induction output with
  | nil => rfl
  | cons observation output ih =>
    rw [requestsIn, ih fun later hlater => h later (List.mem_cons_of_mem _ hlater)]
    cases observation with
    | called party call nested answer => cases h _ List.mem_cons_self
    | analyzed other request =>
      by_cases hcode : other = code <;>
        simp [Observation.requests, Observation.request?, hcode]
    | _ => rfl

theorem Contact.requests_observation (contact : Contact) :
    contact.observation.requests code = requestsOf code contact.inner := by
  obtain ⟨party, call, nested, answer⟩ := contact
  cases nested <;> rfl

@[simp] theorem requestsIn_logged (event : Bridge.Event) : requestsIn code [.logged event] = [] :=
  rfl

@[simp] theorem requestsIn_diagnosis (message : String) :
    requestsIn code (diagnosis message) = [] := rfl

@[simp] theorem requestsIn_preface (step : Step) : requestsIn code step.preface = [] := by
  unfold Step.preface
  split
  · split <;> rfl
  · rfl

@[simp] theorem requestsIn_loaded (host : Host) (path : String) (loader : Loader) :
    requestsIn code (host.loaded path loader).output = requestsIn code host.output := by
  rw [output_loaded, requestsIn_append]
  exact List.append_nil _

/-- Seeing to the cleanup at exit asks no analyzer. -/
@[simp] theorem requestsIn_closing (setup : Setup) (step : Step) (host : Host) :
    requestsIn code (host.closing setup step).output = requestsIn code host.output := by
  rw [output_closing, requestsIn_append]
  cases exitEvent? setup step host <;> exact List.append_nil _

/-- Leaving a call asks no analyzer. -/
theorem Frame.requestsIn_leave (frame : Frame) (answer : Answer) (host : Host) :
    requestsIn code (frame.leave answer host).output = requestsIn code host.output := by
  cases frame with
  | attempt name engine module =>
    unfold leave
    rcases answer.startup with started | _
    · cases started <;> simp
    · simp
  | deciding engine =>
    unfold leave
    cases answer.decision <;> simp
  | ingesting engine =>
    unfold leave
    cases answer.ingestion <;> simp

variable {setup : Setup} {run : Runner} {host : Host}

/-- The requests made when an operation goes a certain way: those of the steps inside the call, and
those of the call itself. -/
def Course.requests (code : Code) (run : Runner) : Course → List Request
  | .reach _ visit =>
      requestsOf code (visit.contact run).inner ++
        visit.notes.filterMap (Observation.request? code)
  | _ => []

theorem Visit.requestsIn_ending (hrun : Tracks setup run) {visit : Visit}
    (hfrom : visit.From host) :
    requestsIn code (visit.ending run).output =
      requestsIn code host.output ++ (requestsOf code (visit.contact run).inner ++
        visit.notes.filterMap (Observation.request? code)) := by
  obtain ⟨houtput, -, -⟩ := visit.ending_tracks hrun hfrom
  rw [houtput, requestsIn_append, requestsIn, Contact.requests_observation,
    requestsIn_of_quiet hfrom.notes]

/-- The output of an operation shows the requests that have been made in it. -/
theorem Goes.requestsIn_finish (code : Code) (hrun : Tracks setup run) {name : BridgeName}
    {operation : Operation} {course : Course} (hgoes : Goes setup host name operation course) :
    requestsIn code (course.finish run).2.output =
      requestsIn code host.output ++ course.requests code run := by
  cases hgoes with
  | startsLoaded hloads hload hcomplete hvisit =>
    rw [Course.finish, Frame.requestsIn_leave,
      Visit.requestsIn_ending hrun (visitOf_from hvisit).1, output_holding, requestsIn_loaded]
    rfl
  | startsSupplied hsupplies hvisit =>
    rw [Course.finish, Frame.requestsIn_leave,
      Visit.requestsIn_ending hrun (visitOf_from hvisit).1]
    rfl
  | forwards hdemand hengine hvisit =>
    rw [Course.finish, Frame.requestsIn_leave,
      Visit.requestsIn_ending hrun (visitOf_from hvisit).1, output_holding]
    rfl
  | @unheard demand hdemand hengine =>
    cases demand <;> simp [Course.finish, Course.requests, Host.unheard]
  | shutsDown hshutdown =>
    simp only [Course.finish, Course.requests, output_observe, requestsIn_append, output_replacing]
    split <;> rfl
  | lacks hloads hload hmissing =>
    simp only [Course.finish, Course.requests, output_observe, requestsIn_append, output_replacing,
      output_lettingGo, output_holding, requestsIn_loaded, requestsIn_diagnosis, List.append_nil]
  | _ => simp [Course.finish, Course.requests]

/-- The report of a step that is an operation: it shows the contact that the operation has made, the
steps inside it and the requests of both. -/
structure Report.Shows (report : Report) (step : Step) (run : Runner) (course : Course) : Prop where
  step_eq : report.step = step
  contacts : report.contacts = (course.contact? run).toList
  inside : report.inside = timelineOf [] (innerOf (course.contact? run))
  changes : report.changes =
    changesOf (innerOf (course.contact? run)) ++ report.change?.toList
  requests : ∀ code, report.requests code = course.requests code run
  result : report.result = step.shows (course.finish run).1
  state : report.state = (course.finish run).2.bridge

theorem report_shows (hrun : Tracks setup run) {step : Step} {name : BridgeName}
    {operation : Operation} {course : Course}
    (hgoes : Goes setup (host.beginning.observe step.preface) name operation course)
    (hperform : (perform setup run step).run host.beginning =
      (step.shows (course.finish run).1, (course.finish run).2.closing setup step)) :
    let ran := (report setup run step).run host
    ran.1.Shows step run course ∧
      ran.2 = { (course.finish run).2.closing setup step with output := host.output } := by
  intro ran
  obtain ⟨hcarries, -, -⟩ := hgoes.fits hrun (quiet_preface step)
  have hclosed := hcarries.closing setup step
  have houtput : ran.1.output = ((course.finish run).2.closing setup step).output :=
    congrArg (fun performed => performed.2.output) hperform
  refine ⟨⟨rfl, contacts_report hperform hcarries, ?_, ?_, fun code => ?_,
    congrArg Prod.fst hperform, ?_⟩, ?_⟩
  · rw [Report.inside, houtput]
    exact hclosed.timelineIn []
  · rw [ran.1.changes_eq, houtput, hclosed.changesIn]
  · rw [ran.1.requests_eq, houtput, requestsIn_closing, hgoes.requestsIn_finish code hrun,
      output_observe, requestsIn_append, requestsIn_preface]
    rfl
  · rw [report_state, hperform, bridge_closing]
  · change { ((perform setup run step).run host.beginning).2 with output := host.output } = _
    rw [hperform]

/-- A step that calls code which does not call back: its report shows that one call, and what has
been asked in it. -/
theorem report_of_reach (hrun : Tracks setup run) {step : Step} {name : BridgeName}
    {operation : Operation} {frame : Frame} {visit : Visit}
    (hgoes : Goes setup (host.beginning.observe step.preface) name operation (.reach frame visit))
    (hperform : (perform setup run step).run host.beginning =
      (step.shows (frame.yields (visit.answer run)),
        (frame.leave (visit.answer run) (visit.ending run)).closing setup step))
    {answer : Answer} (hplain : visit.Plain answer) :
    let ran := (report setup run step).run host
    let left := (frame.leave answer (visit.ending run)).closing setup step
    ran.1.contacts = [⟨visit.party, visit.call, none, answer⟩] ∧
      ran.1.result = step.shows (frame.yields answer) ∧
      (∀ code, ran.1.requests code = visit.notes.filterMap (Observation.request? code)) ∧
      ran.2 = { left with output := host.output } := by
  intro ran left
  obtain ⟨hshows, hafter⟩ := report_shows hrun hgoes hperform
  have hanswer := hplain.answer_eq run
  have hcontact := hplain.contact_eq run
  refine ⟨?_, ?_, fun code => ?_, ?_⟩
  · rw [← hcontact]
    exact hshows.contacts
  · rw [← hanswer]
    exact hshows.result
  · rw [hshows.requests code, Course.requests, hcontact]
    rfl
  · unfold left
    rw [← hanswer]
    exact hafter

/-- After such a step, the data of code are as the call has left them, if they are still there. -/
theorem statics_report_of_reach (hrun : Tracks setup run) {step : Step} {name : BridgeName}
    {operation : Operation} {frame : Frame} {visit : Visit}
    (hgoes : Goes setup (host.beginning.observe step.preface) name operation (.reach frame visit))
    (hperform : (perform setup run step).run host.beginning =
      (step.shows (frame.yields (visit.answer run)),
        (frame.leave (visit.answer run) (visit.ending run)).closing setup step))
    {answer : Answer} (hplain : visit.Plain answer) (code : Code) :
    let ran := (report setup run step).run host
    ran.2.Alive code → ran.2.statics code = visit.host.statics code := by
  intro ran halive
  obtain ⟨-, -, -, hafter⟩ := report_of_reach hrun hgoes hperform hplain
  have hfinish : ran.2.statics = (frame.leave answer (visit.ending run)).statics := by
    rw [hafter, ← statics_closing setup step (frame.leave answer (visit.ending run))]
    funext code
    cases code <;> rfl
  have hleft : (frame.leave answer (visit.ending run)).Alive code := by
    rw [hafter] at halive
    exact alive_closing_iff.mp halive
  have hended : (visit.ending run).statics = visit.host.statics := by
    rw [visit.ending_of_callbacks (hplain.callbacks_eq run), statics_observe]
  rw [hfinish, (Frame.statics_leave hleft).2, hended]

/-! ## States that keep the data of code -/

/-- The state keeps the data of the code: if the code is in a file, it holds a module of the file. -/
def Pinned (code : Code) (state : Bridge.State) : Prop :=
  match code with
  | .linked _ => True
  | .image file => ∃ module ∈ state.module, module.file = file

instance (code : Code) (state : Bridge.State) : Decidable (Pinned code state) :=
  match code with
  | .linked _ => .isTrue trivial
  | .image file => inferInstanceAs (Decidable (∃ module ∈ state.module, module.file = file))

theorem not_pinned_of_module {state : Bridge.State} (h : state.module = none) (file : String) :
    ¬ Pinned (.image file) state := by
  rintro ⟨module, hmodule, -⟩
  rw [h] at hmodule
  cases hmodule

/-- The data of code are there as long as a bridge keeps them. -/
theorem Accounted.alive {base : Loader} {around : Multiset Loader.Module}
    (h : host.Accounted base around) {name : BridgeName} (hpinned : Pinned code (host.bridge name)) :
    host.Alive code := by
  cases code with
  | linked unit => exact trivial
  | image file =>
    obtain ⟨module, hmodule, rfl⟩ := hpinned
    refine Loader.Accounts.isMapped_of_mem h (mem_heldBy name ?_)
    rw [heldBy, show (host.bridge name).module = some module from hmodule]
    exact Multiset.mem_add.mpr (.inr (Multiset.mem_singleton_self module))

/-- All changes of a bridge keep the data of the code. -/
def AllPinned (code : Code) (name : BridgeName) (changes : List Change) : Prop :=
  ∀ change ∈ changes, change.bridge = name → Pinned code change.state

theorem allPinned_append {name : BridgeName} {first second : List Change} :
    AllPinned code name (first ++ second) ↔
      AllPinned code name first ∧ AllPinned code name second := by
  unfold AllPinned
  rw [List.forall_mem_append]

theorem AllPinned.stateAfter {name : BridgeName} {changes : List Change}
    (h : AllPinned code name changes) {start : BridgeName → Bridge.State}
    (hstart : Pinned code (start name)) : Pinned code (stateAfter start changes name) := by
  unfold Host.stateAfter
  cases hlatest : latest? changes name with
  | none => exact hstart
  | some change =>
    obtain ⟨hmem, hbridge⟩ := mem_of_latest? hlatest
    exact h change hmem hbridge

/-! ## The memory after a run -/

/-- If everything between two processes has kept the data of the code, its memory has become what the
requests have made of it. -/
def MemoryKept (analyzer : Analyzer) (code : Code) (name : BridgeName) (host : Host)
    (changes : List Change) (requests : List Request) (after : Host) : Prop :=
  ∀ base around, host.Accounted base around → Pinned code (host.bridge name) →
    AllPinned code name changes →
      after.Accounted base around ∧ Pinned code (after.bridge name) ∧
        (after.statics code).toMemory =
          requests.foldl analyzer.accept (host.statics code).toMemory

variable {analyzer : Analyzer} {name : BridgeName}

theorem MemoryKept.append {middle after : Host} {first second : List Change}
    {requests others : List Request} (h : MemoryKept analyzer code name host first requests middle)
    (hothers : MemoryKept analyzer code name middle second others after) :
    MemoryKept analyzer code name host (first ++ second) (requests ++ others) after := by
  intro base around haccounted hpinned hall
  obtain ⟨hfirst, hsecond⟩ := allPinned_append.mp hall
  obtain ⟨haccounted', hpinned', hmemory⟩ := h base around haccounted hpinned hfirst
  obtain ⟨haccounted'', hpinned'', hmemory'⟩ := hothers base around haccounted' hpinned' hsecond
  exact ⟨haccounted'', hpinned'', by rw [hmemory', hmemory, List.foldl_append]⟩

/-- A visit and the steps inside it make of the memory what their requests say. -/
theorem Visit.memory_ending
    (hrun : ∀ steps host, MemoryKept analyzer code name host
      (changesOf ((run.all steps).run host).1) (requestsOf code ((run.all steps).run host).1)
      ((run.all steps).run host).2)
    {visit : Visit} {base : Loader} {around : Multiset Loader.Module}
    (hheeds : visit.Heeds code analyzer host) (haccounted : visit.host.Accounted base around)
    (hpinned : Pinned code (visit.host.bridge name))
    (hall : AllPinned code name (changesOf (visit.contact run).inner)) :
    ((visit.ending run).statics code).toMemory =
      (requestsOf code (visit.contact run).inner ++
        visit.notes.filterMap (Observation.request? code)).foldl analyzer.accept
        (host.statics code).toMemory := by
  have hnested : ∀ steps, visit.callbacks run = some steps →
      (visit.ending run).statics = ((run.all steps).run visit.host).2.statics ∧
        (visit.contact run).inner = ((run.all steps).run visit.host).1 := by
    intro steps hcallbacks
    unfold ending contact callBack
    rw [hcallbacks, statics_observe]
    exact ⟨rfl, rfl⟩
  cases hcallbacks : visit.callbacks run with
  | none =>
    have hend : (visit.ending run).statics = visit.host.statics ∧
        (visit.contact run).inner = [] := by
      unfold ending contact callBack
      rw [hcallbacks, statics_observe]
      exact ⟨rfl, rfl⟩
    rw [hend.1, hend.2, hheeds.memory]
    rfl
  | some steps =>
    obtain ⟨hstatics, hinner⟩ := hnested steps hcallbacks
    -- code that calls back is no analyzer, so the visit itself has asked nothing
    have hnotes : visit.notes = [] := by
      refine hheeds.once.resolve_left ?_
      rintro ⟨answer, hplain⟩
      rw [hplain.callbacks_eq run] at hcallbacks
      cases hcallbacks
    have hentered := hheeds.memory
    rw [hnotes] at hentered ⊢
    rw [hinner] at hall ⊢
    obtain ⟨-, -, hmemory⟩ := hrun steps visit.host base around haccounted hpinned hall
    rw [hstatics, hmemory, hentered, List.filterMap_nil, List.append_nil]
    rfl

/-- When an operation reaches code, what it has done before leaves the memory alone, and the visit
does to it what its requests say. -/
theorem Goes.heeds (hprogram : setup.program code = .analyzer analyzer) {operation : Operation}
    {frame : Frame} {visit : Visit} {other : BridgeName}
    (hgoes : Goes setup host other operation (.reach frame visit))
    (halive : visit.host.Alive code) : visit.Heeds code analyzer host := by
  cases hgoes with
  | startsLoaded hloads hload hcomplete hvisit =>
    obtain ⟨hmemory, honce⟩ := heeds_visitOf hprogram ((alive_visitOf_iff hvisit).mp halive) hvisit
    rw [statics_holding, statics_loaded hload] at hmemory
    exact ⟨hmemory, honce⟩
  | startsSupplied hsupplies hvisit =>
    exact heeds_visitOf hprogram ((alive_visitOf_iff hvisit).mp halive) hvisit
  | forwards hdemand hengine hvisit =>
    obtain ⟨hmemory, honce⟩ := heeds_visitOf hprogram ((alive_visitOf_iff hvisit).mp halive) hvisit
    rw [statics_holding] at hmemory
    exact ⟨hmemory, honce⟩

/-- What an operation does before it replaces a state leaves the data of code alone that is still
there. -/
theorem Goes.statics_start {operation : Operation} {next : Bridge.State} {start : Host}
    {notes : List (Observation Report)} {b : Bool} {other replaced : BridgeName}
    (hgoes : Goes setup host other operation (.replace replaced next start notes b))
    (halive : start.Alive code) : start.statics code = host.statics code := by
  cases hgoes with
  | lacks hloads hload hmissing =>
    obtain ⟨-, hsame⟩ := statics_lettingGo (alive_observe_iff.mp halive)
    rw [statics_observe, hsame, statics_holding, statics_loaded hload]
  | _ => simp

/-- The process when the code that an operation calls has answered, or in which the operation is made
if it calls none. -/
def Course.answered (run : Runner) (host : Host) : Course → Host
  | .reach _ visit => visit.ending run
  | _ => host

/-- What an operation does after its call leaves the data of code alone that is still there. -/
theorem Goes.statics_finish {operation : Operation} {course : Course} {other : BridgeName}
    (hgoes : Goes setup host other operation course) (halive : (course.finish run).2.Alive code) :
    (course.finish run).2.statics code = (course.answered run host).statics code := by
  cases course with
  | pass next =>
    cases hgoes with
    | unheard hdemand hengine => rw [Course.finish, statics_observe]; rfl
  | replace replaced next start notes b =>
    obtain ⟨hstart, hsame⟩ := statics_replacing (alive_observe_iff.mp halive)
    rw [Course.finish, statics_observe, hsame, hgoes.statics_start hstart]
    rfl
  | reach frame visit => exact (Frame.statics_leave halive).2

/-- What an operation does after its call leaves all other bridges alone. -/
theorem Goes.bridge_finish_of_ne {operation : Operation} {course : Course} {other : BridgeName}
    (hgoes : Goes setup host other operation course) (hne : other ≠ name) :
    (course.finish run).2.bridge name = (course.answered run host).bridge name := by
  cases course with
  | pass next =>
    cases hgoes with
    | unheard hdemand hengine => exact congrFun (bridge_observe host _) name
  | replace replaced next start notes b =>
    have hstart : replaced = other ∧ start.bridge = host.bridge := by
      cases hgoes <;> exact ⟨rfl, by simp⟩
    rw [Course.finish, bridge_observe, bridge_replacing, hstart.1, hstart.2, if_neg hne]
    rfl
  | reach frame visit =>
    cases hgoes with
    | startsLoaded hloads hload hcomplete hvisit =>
      rw [Course.finish, Frame.bridge_leave_attempt, if_neg hne]
      rfl
    | startsSupplied hsupplies hvisit =>
      rw [Course.finish, Frame.bridge_leave_attempt, if_neg hne]
      rfl
    | forwards hdemand hengine hvisit =>
      rw [Course.finish, Frame.bridge_leave_frameOf]
      rfl

/-- The step lemma for operations. -/
theorem Goes.memory_finish (hprogram : setup.program code = .analyzer analyzer) (hkeeps : Keeps run)
    (hrun : ∀ steps host, MemoryKept analyzer code name host
      (changesOf ((run.all steps).run host).1) (requestsOf code ((run.all steps).run host).1)
      ((run.all steps).run host).2)
    {operation : Operation} {course : Course} {other : BridgeName}
    (hgoes : Goes setup host other operation course) {base : Loader}
    {around : Multiset Loader.Module} (haccounted : host.Accounted base around)
    (hpinned : Pinned code (host.bridge name))
    (hall : AllPinned code name (changesOf (innerOf (course.contact? run))))
    (hafter : Pinned code ((course.finish run).2.bridge name)) :
    ((course.finish run).2.statics code).toMemory =
      (course.requests code run).foldl analyzer.accept (host.statics code).toMemory := by
  have hentered := hgoes.accounted haccounted
  have halive : (course.finish run).2.Alive code :=
    (Course.accounted_finish hkeeps hentered).alive hafter
  rw [hgoes.statics_finish halive]
  cases course with
  | pass next => rfl
  | replace replaced next start notes b => rfl
  | reach frame visit =>
    have hpinned' : Pinned code (visit.host.bridge name) := by
      rwa [hgoes.bridge_enter]
    have hheeds := hgoes.heeds hprogram (Accounted.alive hentered hpinned')
    exact visit.memory_ending hrun hheeds hentered hpinned' hall

/-- A step that is an operation makes of the memory what its output says. -/
theorem memory_of_target (hprogram : setup.program code = .analyzer analyzer)
    (htracks : Tracks setup run) (hkeeps : Keeps run)
    (hrun : ∀ steps host, MemoryKept analyzer code name host
      (changesOf ((run.all steps).run host).1) (requestsOf code ((run.all steps).run host).1)
      ((run.all steps).run host).2)
    {step : Step} {other : BridgeName} {operation : Operation}
    (htarget : step.target? = some (other, operation)) {base : Loader}
    {around : Multiset Loader.Module} (haccounted : host.Accounted base around)
    (hpinned : Pinned code (host.bridge name)) :
    let after := ((perform setup run step).run host.beginning).2
    AllPinned code name (changesIn after.output) → Pinned code (after.bridge name) →
      (after.statics code).toMemory =
        (requestsIn code after.output).foldl analyzer.accept (host.statics code).toMemory := by
  intro after hinside hafter
  obtain ⟨course, hgoes, hperforms⟩ := exists_goes_of_target setup htarget host.beginning
  obtain ⟨hcarries, -, -⟩ := hgoes.fits htracks (quiet_preface step)
  have hfinish : after = (course.finish run).2.closing setup step :=
    congrArg Prod.snd (hperforms run)
  rw [hfinish] at hinside hafter ⊢
  rw [(hcarries.closing setup step).changesIn] at hinside
  rw [bridge_closing] at hafter
  have hbeginning : (host.beginning.observe step.preface).Accounted base around := haccounted
  have hstart : Pinned code ((host.beginning.observe step.preface).bridge name) := by
    rwa [bridge_observe, bridge_beginning]
  have hmemory := hgoes.memory_finish hprogram hkeeps hrun hbeginning hstart hinside hafter
  rw [statics_observe, statics_beginning] at hmemory
  rw [statics_closing, requestsIn_closing, hgoes.requestsIn_finish code htracks, output_observe,
    requestsIn_append, requestsIn_preface]
  exact hmemory

/-- A step that reaches code without a bridge makes of the memory what its output says. -/
theorem memory_of_directVisit (hprogram : setup.program code = .analyzer analyzer)
    (htracks : Tracks setup run)
    (hrun : ∀ steps host, MemoryKept analyzer code name host
      (changesOf ((run.all steps).run host).1) (requestsOf code ((run.all steps).run host).1)
      ((run.all steps).run host).2)
    {step : Step} {visit : Visit} (hvisit : step.directVisit? setup host.beginning = some visit)
    {base : Loader} {around : Multiset Loader.Module} (haccounted : host.Accounted base around)
    (hpinned : Pinned code (host.bridge name))
    (hinside : AllPinned code name (changesIn (visit.ending run).output)) :
    ((visit.ending run).statics code).toMemory =
      (requestsIn code (visit.ending run).output).foldl analyzer.accept
        (host.statics code).toMemory := by
  have hfrom := directVisit_from hvisit
  have hbeginning : host.beginning.Accounted base around := haccounted
  have hstart : Pinned code (host.beginning.bridge name) := by
    rwa [bridge_beginning]
  have hentered : Pinned code (visit.host.bridge name) := by
    rwa [hfrom.bridge]
  rw [(visit.carries_ending htracks hfrom .nil).changesIn] at hinside
  have hmemory := visit.memory_ending hrun
    (heeds_directVisit hprogram (hbeginning.alive hstart) hvisit)
    (accounted_directVisit hbeginning hvisit) hentered hinside
  rw [statics_beginning] at hmemory
  rw [Visit.requestsIn_ending htracks hfrom]
  exact hmemory

/-- The step lemma. -/
theorem report_memoryKept (hprogram : setup.program code = .analyzer analyzer) {depth : Nat}
    (hrun : ∀ steps host, MemoryKept analyzer code name host
      (changesOf (((calledBack setup depth).all steps).run host).1)
      (requestsOf code (((calledBack setup depth).all steps).run host).1)
      (((calledBack setup depth).all steps).run host).2)
    (step : Step) (host : Host) :
    let ran := (report setup (calledBack setup depth) step).run host
    MemoryKept analyzer code name host ran.1.changes (ran.1.requests code) ran.2 := by
  intro ran base around haccounted hpinned hall
  have hkeeps := calledBack_keeps setup depth
  have htracks : Tracks setup (calledBack setup depth) := calledBack_tracks depth
  obtain ⟨-, hbridge, -, -⟩ := report_tracks htracks step host
  have hpinnedAfter : Pinned code (ran.2.bridge name) := by
    rw [hbridge]
    exact hall.stateAfter hpinned
  refine ⟨report_keeps hkeeps step haccounted, hpinnedAfter, ?_⟩
  -- the report is about the process at the end of the step, but for the output
  have hstatics : ran.2.statics =
      ((perform setup (calledBack setup depth) step).run host.beginning).2.statics := by
    funext code
    cases code <;> rfl
  have hperformed : ran.2.bridge =
      ((perform setup (calledBack setup depth) step).run host.beginning).2.bridge :=
    bridge_withOutput _ _
  have hinside : AllPinned code name
      (changesIn ((perform setup (calledBack setup depth) step).run host.beginning).2.output) := by
    rw [ran.1.changes_eq, allPinned_append] at hall
    exact hall.1
  rw [hperformed] at hpinnedAfter
  rw [ran.1.requests_eq, hstatics]
  cases htarget : step.target? with
  | some target =>
    exact memory_of_target hprogram htracks hkeeps hrun htarget haccounted hpinned hinside
      hpinnedAfter
  | none =>
    cases hvisit : step.directVisit? setup host.beginning with
    | some visit =>
      obtain ⟨result, hperform⟩ := perform_of_directVisit setup hvisit (calledBack setup depth)
      have houtput : ran.1.output = (visit.ending (calledBack setup depth)).output :=
        congrArg (fun performed => performed.2.output) hperform
      rw [hperform] at hinside
      rw [houtput, hperform]
      exact memory_of_directVisit hprogram htracks hrun hvisit haccounted hpinned hinside
    | none =>
      obtain ⟨result, hperform⟩ := perform_of_aside setup htarget hvisit
      have houtput : ran.1.output = [] :=
        congrArg (fun performed => performed.2.output) (hperform _)
      rw [houtput, hperform, statics_withDisk, statics_beginning]
      rfl

/-- As long as a bridge keeps the data of the code, every run makes of the memory what the requests
in its reports say. -/
theorem memoryKept_of_run (hprogram : setup.program code = .analyzer analyzer) (name : BridgeName)
    (depth : Nat) (steps : List Step) (host : Host) :
    let ran := (runSteps setup depth steps).run host
    MemoryKept analyzer code name host (changesOf ran.1) (requestsOf code ran.1) ran.2 :=
  runSteps_induction
    (fun host ran =>
      MemoryKept analyzer code name host (changesOf ran.1) (requestsOf code ran.1) ran.2)
    (fun host ran =>
      MemoryKept analyzer code name host ran.1.changes (ran.1.requests code) ran.2)
    (fun _ _ _ haccounted hpinned _ => ⟨haccounted, hpinned, rfl⟩)
    (fun _ _ _ hfirst hothers => hfirst.append hothers)
    (fun _ hrun => report_memoryKept hprogram hrun) depth steps host

end Host
end FailOpen
