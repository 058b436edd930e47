import FailOpen.Host.Run

/-!
# Calls that reach code

What an engine does when it is called is settled when it is entered, up to what the steps of its
callback result in.  This module takes a call apart accordingly: a `Visit` holds everything that does
not depend on who performs those steps (who is called, with what, how the code reacts, and the
process in which it does), and `Visit.ending` is the process when the call has come to its end, for
any runner.

* `Routine.steps` and `Routine.answered` are the steps that a routine makes with a runner, and the
  answer that it comes to; `play_run` states that going through it is making these steps.
* `Engine.visit?` is the visit of a call to an engine.  The inert engine has no code to be visited.
* `engineStartup_run`, `engineBlock_run` and `engineIngest_run` state that calling an engine is
  finishing its visit, so that no later proof opens these functions again.
-/

namespace FailOpen
namespace Host

/-! ## Running computations -/

section Act

variable {α β : Type} (host : Host)

@[simp] theorem run_pure (a : α) : (pure a : Act α).run host = (a, host) := rfl

@[simp] theorem run_bind (x : Act α) (f : α → Act β) :
    (x >>= f).run host = (f (x.run host).1).run (x.run host).2 := rfl

@[simp] theorem run_map (f : α → β) (x : Act α) :
    (f <$> x).run host = (f (x.run host).1, (x.run host).2) := rfl

@[simp] theorem run_get : (get : Act Host).run host = (host, host) := rfl

@[simp] theorem run_modify (f : Host → Host) : (modify f : Act PUnit).run host = ((), f host) := rfl

end Act

/-! ## What may be there in both of two processes, or in none -/

theorem exists_of_rel_some {α β : Type} {R : α → β → Prop} {a : α} {other : Option β}
    (h : Option.Rel R (some a) other) : ∃ b, other = some b ∧ R a b := by
  cases h with
  | some hrel => exact ⟨_, rfl, hrel⟩

theorem eq_none_of_rel_none {α β : Type} {R : α → β → Prop} {other : Option β}
    (h : Option.Rel R none other) : other = none := by
  cases h with
  | none => rfl

/-! ## Steps that are made as their results say -/

/-- Performs steps one after the other, with a report of each that is performed. -/
def Runner.all (run : Runner) : List Step → Act (List Report)
  | [] => return []
  | step :: steps => do
    let report ← run step
    let others ← run.all steps
    return report.toList ++ others

namespace Routine

variable {α β : Type}

/-- The steps that a routine makes, by the results that a runner gives them. -/
def steps (run : Runner) : Routine α → Host → List Step
  | .answer _, _ => []
  | .step first next, host =>
      let performed := (run first).run host
      first :: (next (performed.1.map Report.result)).steps run performed.2

/-- The answer that a routine comes to. -/
def answered (run : Runner) : Routine α → Host → α
  | .answer a, _ => a
  | .step first next, host =>
      let performed := (run first).run host
      (next (performed.1.map Report.result)).answered run performed.2

/-- The same steps with another answer. -/
def map (f : α → β) : Routine α → Routine β
  | .answer a => .answer (f a)
  | .step first next => .step first fun result => (next result).map f

theorem steps_map (run : Runner) (f : α → β) (routine : Routine α) (host : Host) :
    (routine.map f).steps run host = routine.steps run host := by
  induction routine generalizing host with
  | answer a => rfl
  | step first next ih => exact congrArg (first :: ·) (ih _ _)

theorem answered_map (run : Runner) (f : α → β) (routine : Routine α) (host : Host) :
    (routine.map f).answered run host = f (routine.answered run host) := by
  induction routine generalizing host with
  | answer a => rfl
  | step first next ih => exact ih _ _

/-- Going through a routine is making its steps, and coming to its answer. -/
theorem play_run (run : Runner) (routine : Routine α) (host : Host) :
    (play run routine).run host =
      let performed := (run.all (routine.steps run host)).run host
      ((routine.answered run host, performed.1), performed.2) := by
  induction routine generalizing host with
  | answer a => rfl
  | step first next ih =>
    simp only [play, run_bind, run_pure, ih]
    rfl

/-- Going through a routine depends on the runner at no other step, and in no other state, than those
that come about on the way. -/
theorem steps_congr {run other : Runner} (routine : Routine α) (host : Host)
    (h : ∀ made step rest, routine.steps other host = made ++ step :: rest →
      (run step).run ((other.all made).run host).2 =
        (other step).run ((other.all made).run host).2) :
    routine.steps run host = routine.steps other host ∧
      routine.answered run host = routine.answered other host ∧
        (run.all (routine.steps run host)).run host =
          (other.all (routine.steps other host)).run host := by
  induction routine generalizing host with
  | answer a => exact ⟨rfl, rfl, rfl⟩
  | step first next ih =>
    have hfirst : (run first).run host = (other first).run host := h [] first _ rfl
    -- what holds on the way of the whole routine holds on the way of the rest
    obtain ⟨hsteps, hanswered, hran⟩ := ih (((other first).run host).1.map Report.result)
      ((other first).run host).2 fun made step rest heq =>
        h (first :: made) step rest (congrArg (first :: ·) heq)
    have hrest : (Routine.step first next).steps run host =
        first :: (next (((other first).run host).1.map Report.result)).steps run
          ((other first).run host).2 := by
      rw [← hfirst]
      rfl
    have hend : (Routine.step first next).answered run host =
        (next (((other first).run host).1.map Report.result)).answered run
          ((other first).run host).2 := by
      rw [← hfirst]
      rfl
    refine ⟨hrest.trans (congrArg (first :: ·) hsteps), hend.trans hanswered, ?_⟩
    rw [hrest]
    simp only [Runner.all, run_bind, run_pure, hfirst, hran]
    rfl

end Routine

namespace Reaction

variable {α β : Type}

/-- The steps that are made in a reaction, if it calls back at all. -/
def callbacks (run : Runner) (host : Host) : Reaction α → Option (List Step)
  | .answer _ => none
  | .callBack routine => some (routine.steps run host)

/-- The answer that is come to in a reaction. -/
def answered (run : Runner) (host : Host) : Reaction α → α
  | .answer a => a
  | .callBack routine => routine.answered run host

/-- The same reaction with another answer. -/
def map (f : α → β) : Reaction α → Reaction β
  | .answer a => .answer (f a)
  | .callBack routine => .callBack (routine.map f)

theorem callbacks_map (run : Runner) (host : Host) (f : α → β) (reaction : Reaction α) :
    (reaction.map f).callbacks run host = reaction.callbacks run host := by
  cases reaction with
  | answer a => rfl
  | callBack routine => exact congrArg some (routine.steps_map run f host)

@[simp] theorem answered_map (run : Runner) (host : Host) (f : α → β) (reaction : Reaction α) :
    (reaction.map f).answered run host = f (reaction.answered run host) := by
  cases reaction with
  | answer a => rfl
  | callBack routine => exact routine.answered_map run f host

end Reaction

/-! ## Visits -/

/-- A call that has reached code, at the moment before the code makes its first step. -/
structure Visit where
  party : Party
  call : Call
  /-- What the code does. -/
  reaction : Reaction Answer
  /-- What is observed behind the call. -/
  notes : List (Observation Report) := []
  /-- The process in which the code does it. -/
  host : Host

namespace Visit

/-- The steps that are made in a visit before the answer, if the code calls back at all. -/
def callbacks (run : Runner) (visit : Visit) : Option (List Step) :=
  visit.reaction.callbacks run visit.host

/-- The answer that a visit ends with. -/
def answer (run : Runner) (visit : Visit) : Answer :=
  visit.reaction.answered run visit.host

/-- Makes the steps of the callback. -/
def callBack (run : Runner) (visit : Visit) : Option (List Report) × Host :=
  match visit.callbacks run with
  | none => (none, visit.host)
  | some steps => (some ((run.all steps).run visit.host).1, ((run.all steps).run visit.host).2)

/-- The call as it is observed, with the reports of the steps made inside it. -/
def observation (run : Runner) (visit : Visit) : Observation Report :=
  .called visit.party visit.call (visit.callBack run).1 (visit.answer run)

/-- The process when the call is over. -/
def ending (run : Runner) (visit : Visit) : Host :=
  (visit.callBack run).2.observe (visit.observation run :: visit.notes)

/-- The code answers without calling back. -/
def Plain (visit : Visit) (answer : Answer) : Prop :=
  visit.reaction = .answer answer

variable {run : Runner} {visit : Visit} {answer : Answer}

theorem Plain.answer_eq (h : visit.Plain answer) (run : Runner) : visit.answer run = answer := by
  rw [Visit.answer, show visit.reaction = _ from h]
  rfl

theorem Plain.callbacks_eq (h : visit.Plain answer) (run : Runner) :
    visit.callbacks run = none := by
  rw [Visit.callbacks, show visit.reaction = _ from h]
  rfl

/-- Code that calls back goes through its routine, beginning where it was entered. -/
theorem callBack_of_reaction {routine : Routine Answer}
    (hreaction : visit.reaction = .callBack routine) (run : Runner) :
    visit.answer run = routine.answered run visit.host ∧
      visit.callBack run = (some ((run.all (routine.steps run visit.host)).run visit.host).1,
        ((run.all (routine.steps run visit.host)).run visit.host).2) := by
  unfold Visit.answer callBack callbacks
  rw [hreaction]
  exact ⟨rfl, rfl⟩

/-- A visit without steps inside it ends where it began, but for what is observed. -/
theorem ending_of_callbacks (hcallbacks : visit.callbacks run = none) :
    visit.ending run = visit.host.observe
      (.called visit.party visit.call none (visit.answer run) :: visit.notes) := by
  unfold ending observation callBack
  rw [hcallbacks]

end Visit

/-! ## Answers -/

namespace Answer

/-- How a startup ends that was answered in this way. -/
def startup : Answer → Outcome Bool
  | .verdict outcome => outcome
  | .byte code => .returned (code = 1)
  | _ => .panicked

/-- How a decision ends that was answered in this way. -/
def decision : Answer → Outcome Bool
  | .verdict outcome => outcome
  | .byte code => .returned (code ≠ 0)
  | _ => .panicked

/-- How an ingestion ends that was answered in this way. -/
def ingestion : Answer → Outcome Unit
  | .finished outcome => outcome
  | _ => .returned ()

/-- The byte that an entry point answered with. -/
def code : Answer → UInt8
  | .byte code => code
  | _ => 0

/-- Whether a startup was accepted. -/
def accepts (answer : Answer) : Bool :=
  answer.startup = .returned true

/-- Whether an exchange is to be blocked.  A panic blocks nothing. -/
def blocks (answer : Answer) : Bool :=
  answer.decision = .returned true

end Answer

/-! ## What code does with a call -/

/-- The three things that a bridge asks of an engine. -/
inductive Demand where
  | startup (args : Startup.Arguments)
  | block (exchange : Traffic.Record.Exchange)
  | ingest (trace : Traffic.Record.Trace)

/-- The call by which a demand crosses the boundary. -/
def Demand.call : Demand → Call
  | .startup args => .startup args.raw
  | .block exchange => .block exchange
  | .ingest trace => .ingest trace

def CustomEngine.reaction (engine : CustomEngine) (before : List Call) : Demand → Reaction Answer
  | .startup args => (engine.startup before args).map .verdict
  | .block exchange => (engine.block before exchange).map .verdict
  | .ingest trace => (engine.ingest before trace).map .finished

def EntryCode.reaction (code : EntryCode) (before : List Call) : Call → Reaction Answer
  | .startup args => (code.startup before args).map .byte
  | .block exchange => (code.block before exchange).map .byte
  | .ingest trace => (code.ingest before trace).map fun _ => .nothing

/-- What the entry points around an analyzer do with a call. -/
def analyzerEnding (analyzer : Analyzer) (memory : Analyzer.Memory) :
    Call → Analyzer.Ending Answer
  | .startup args =>
      let ending := analyzer.startupEntry memory args
      { ending with answer := .byte ending.answer }
  | .block exchange =>
      let ending := analyzer.blockEntry memory exchange
      { ending with answer := .byte ending.answer }
  | .ingest trace =>
      let ending := analyzer.ingestEntry memory trace
      { ending with answer := .nothing }

/-! ## The visits of an engine -/

/-- The process in which a custom engine has received a call. -/
def receiveCustom (host : Host) (name : String) (call : Call) : Host :=
  { host with received := update host.received name (host.received name ++ [call]) }

/-- The process in which some code has received a call. -/
def receiveCode (host : Host) (code : Code) (call : Call) : Host :=
  host.modifyStatics code fun statics => { statics with received := statics.received ++ [call] }

variable (setup : Setup)

/-- A call to a custom engine. -/
def customVisit (host : Host) (name : String) (demand : Demand) : Visit :=
  { party := .custom name
    call := demand.call
    reaction := (setup.custom name).reaction (host.received name) demand
    host := host.receiveCustom name demand.call }

/-- A call to an entry point. -/
def entryVisit (host : Host) (code : Code) (call : Call) : Visit :=
  match setup.program code with
  | .coded entryCode =>
      { party := .code code
        call
        reaction := entryCode.reaction (host.statics code).received call
        host := host.receiveCode code call }
  | .analyzer analyzer =>
      let entered := host.receiveCode code call
      let ending := analyzerEnding analyzer (entered.statics code).toMemory call
      { party := .code code
        call
        reaction := .answer ending.answer
        notes := ending.notes.map (noteObservation code)
        host := entered.modifyStatics code fun statics =>
          { statics with toMemory := ending.toMemory } }

/-- Whose code an engine leads to.  The inert engine leads nowhere. -/
def partyOf : Engine → Option Party
  | .inert => none
  | .custom name => some (.custom name)
  | .native native => some (.code native.code)

/-- The visit of a call to an engine, if it leads to any code. -/
def visitOf (host : Host) : Engine → Demand → Option Visit
  | .inert, _ => none
  | .custom name, demand => some (customVisit setup host name demand)
  | .native native, demand => some (entryVisit setup host native.code demand.call)

/-! ## Calling is finishing a visit -/

variable (run : Runner)

/-- Letting code react is finishing its visit.  The answer is read off what is observed of it. -/
theorem react_run {α : Type} {seen : α → Answer} (read : Answer → α)
    (hread : ∀ a, read (seen a) = a) (party : Party) (call : Call) (reaction : Reaction α)
    (host : Host) :
    (react run party call seen reaction).run host =
      let visit : Visit := { party, call, reaction := reaction.map seen, host }
      (read (visit.answer run), visit.ending run) := by
  unfold react Visit.ending Visit.observation Visit.callBack Visit.callbacks Visit.answer
  simp only [Reaction.answered_map, Reaction.callbacks_map, hread]
  cases reaction with
  | answer answer => rfl
  | callBack routine =>
    simp only [run_bind, run_pure, Routine.play_run]
    rfl

theorem customStartup_run (name : String) (args : Startup.Arguments) (host : Host) :
    (customStartup setup run name args).run host =
      let visit := customVisit setup host name (.startup args)
      ((visit.answer run).startup, visit.ending run) :=
  react_run run Answer.startup (fun _ => rfl) _ _ _ _

theorem customBlock_run (name : String) (exchange : Traffic.Record.Exchange) (host : Host) :
    (customBlock setup run name exchange).run host =
      let visit := customVisit setup host name (.block exchange)
      ((visit.answer run).decision, visit.ending run) :=
  react_run run Answer.decision (fun _ => rfl) _ _ _ _

theorem customIngest_run (name : String) (trace : Traffic.Record.Trace) (host : Host) :
    (customIngest setup run name trace).run host =
      let visit := customVisit setup host name (.ingest trace)
      ((visit.answer run).ingestion, visit.ending run) :=
  react_run run Answer.ingestion (fun _ => rfl) _ _ _ _

/-- An entry point that answers with a byte is run by finishing its visit. -/
theorem entryStartup_run (code : Code) (args : Startup.RawArguments) (host : Host) :
    let visit := entryVisit setup host code (.startup args)
    visit.answer run = .byte (visit.answer run).code ∧
      (entryStartup setup run code args).run host = ((visit.answer run).code, visit.ending run) := by
  unfold entryStartup entryVisit
  cases hprogram : setup.program code with
  | coded entryCode =>
      refine ⟨?_, react_run run Answer.code (fun _ => rfl) _ _ _ _⟩
      simp only [Visit.answer, EntryCode.reaction, Reaction.answered_map, Answer.code]
  | analyzer analyzer => exact ⟨rfl, rfl⟩

theorem entryBlock_run (code : Code) (exchange : Traffic.Record.Exchange) (host : Host) :
    let visit := entryVisit setup host code (.block exchange)
    visit.answer run = .byte (visit.answer run).code ∧
      (entryBlock setup run code exchange).run host = ((visit.answer run).code, visit.ending run) := by
  unfold entryBlock entryVisit
  cases hprogram : setup.program code with
  | coded entryCode =>
      refine ⟨?_, react_run run Answer.code (fun _ => rfl) _ _ _ _⟩
      simp only [Visit.answer, EntryCode.reaction, Reaction.answered_map, Answer.code]
  | analyzer analyzer => exact ⟨rfl, rfl⟩

theorem entryIngest_run (code : Code) (trace : Traffic.Record.Trace) (host : Host) :
    let visit := entryVisit setup host code (.ingest trace)
    visit.answer run = .nothing ∧
      (entryIngest setup run code trace).run host = ((), visit.ending run) := by
  unfold entryIngest entryVisit
  cases hprogram : setup.program code with
  | coded entryCode =>
      refine ⟨?_, react_run run (fun _ => ()) (fun _ => rfl) _ _ _ _⟩
      simp only [Visit.answer, EntryCode.reaction, Reaction.answered_map]
  | analyzer analyzer => exact ⟨rfl, rfl⟩

/-- Starting an engine is finishing the visit of its startup. -/
theorem engineStartup_run (engine : Engine) (args : Startup.Arguments) (host : Host) :
    (engineStartup setup run engine args).run host =
      match visitOf setup host engine (.startup args) with
      | none => (.returned false, host)
      | some visit => ((visit.answer run).startup, visit.ending run) := by
  cases engine with
  | inert => rfl
  | custom name => exact customStartup_run setup run name args host
  | native native =>
      -- the byte is judged when the call has ended, so the visit is that of the entry point
      obtain ⟨hanswer, hrun⟩ := entryStartup_run setup run native.code args.raw host
      simp only [engineStartup, visitOf, Demand.call, run_bind, run_pure, hrun]
      rw [hanswer]
      rfl

/-- Asking an engine for a decision is finishing the visit of the question. -/
theorem engineBlock_run (engine : Engine) (exchange : Traffic.Record.Exchange) (host : Host) :
    (engineBlock setup run engine exchange).run host =
      match visitOf setup host engine (.block exchange) with
      | none => (.returned false, host)
      | some visit => ((visit.answer run).decision, visit.ending run) := by
  cases engine with
  | inert => rfl
  | custom name => exact customBlock_run setup run name exchange host
  | native native =>
      obtain ⟨hanswer, hrun⟩ := entryBlock_run setup run native.code exchange host
      simp only [engineBlock, visitOf, Demand.call, run_bind, run_pure, hrun]
      rw [hanswer]
      rfl

/-- Handing a trace to an engine is finishing the visit of the hand-over. -/
theorem engineIngest_run (engine : Engine) (trace : Traffic.Record.Trace) (host : Host) :
    (engineIngest setup run engine trace).run host =
      match visitOf setup host engine (.ingest trace) with
      | none => (.returned (), host)
      | some visit => ((visit.answer run).ingestion, visit.ending run) := by
  cases engine with
  | inert => rfl
  | custom name => exact customIngest_run setup run name trace host
  | native native =>
      obtain ⟨hanswer, hrun⟩ := entryIngest_run setup run native.code trace host
      simp only [engineIngest, visitOf, Demand.call, run_bind, run_pure, hrun]
      rw [hanswer]
      rfl

end Host
end FailOpen
