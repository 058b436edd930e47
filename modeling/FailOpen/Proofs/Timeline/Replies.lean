import FailOpen.Proofs.Course.Near
import FailOpen.Proofs.Timeline.Tracks

/-!
# Replies, and what is shown

Two things are read off the reports of a run here, both in the order of the run and from all depths.

* `repliesOf` lists what engines have contributed to the run.  A `Reply` is everything that an engine
  decides when it is called: the answer, the remarks of its analyzer, and the steps that it makes
  before it answers.
* `shownOf` lists what can be seen of the run: the log, the lines for operators, the results of all
  steps, and the bridges after every step.
* `Concur` says of two runs that their engines have replied the same as far as both runs go.  One of
  the runs may have asked for more.
-/

namespace FailOpen
namespace Host

/-! ## Replies -/

/-- The steps of some reports, without secrets. -/
def stepsOf (reports : List Report) : List Step :=
  reports.map fun report => report.step.redacted

/-- What an engine decides in a call. -/
structure Reply where
  answer : Answer
  /-- The remarks that are made in the step of the call. -/
  remarks : List Remark
  /-- The steps made inside the call, without secrets, if there is a callback. -/
  inside : Option (List Step)
  deriving DecidableEq

def Contact.reply (remarks : List Remark) (contact : Contact) : Reply :=
  ⟨contact.answer, remarks, contact.nested.map stepsOf⟩

mutual

/-- The replies in a step, in the order of the calls. -/
def Report.replies : Report → List Reply
  | ⟨_, _, output, _, _⟩ => repliesIn (remarksIn output) output

/-- The replies in an output, with the remarks that have been made in it. -/
def repliesIn (remarks : List Remark) : List (Observation Report) → List Reply
  | [] => []
  | observation :: output => observation.replies remarks ++ repliesIn remarks output

/-- The reply to a call, and the replies in the steps made inside it. -/
def Observation.replies (remarks : List Remark) : Observation Report → List Reply
  | .called _ _ none answer => [⟨answer, remarks, none⟩]
  | .called _ _ (some reports) answer =>
      ⟨answer, remarks, some (stepsOf reports)⟩ :: repliesOf reports
  | _ => []

/-- The replies in some steps, in the order of the calls. -/
def repliesOf : List Report → List Reply
  | [] => []
  | report :: reports => report.replies ++ repliesOf reports

end

theorem Contact.replies_observation (remarks : List Remark) (contact : Contact) :
    contact.observation.replies remarks = contact.reply remarks :: repliesOf contact.inner := by
  obtain ⟨party, call, nested, answer⟩ := contact
  cases nested <;> rfl

theorem repliesIn_append (remarks : List Remark) (first second : List (Observation Report)) :
    repliesIn remarks (first ++ second) = repliesIn remarks first ++ repliesIn remarks second := by
  induction first with
  | nil => rfl
  | cons observation first ih => rw [List.cons_append, repliesIn, repliesIn, ih, List.append_assoc]

theorem Observation.replies_of_isQuiet (remarks : List Remark) {observation : Observation Report}
    (h : observation.isQuiet) : observation.replies remarks = [] := by
  cases observation with
  | called party call nested answer => cases h
  | _ => rfl

theorem repliesIn_of_quiet (remarks : List Remark) {output : List (Observation Report)}
    (h : Quiet output) : repliesIn remarks output = [] := by
  induction output with
  | nil => rfl
  | cons observation output ih =>
    rw [repliesIn, Observation.replies_of_isQuiet remarks (h observation List.mem_cons_self),
      ih fun later hlater => h later (List.mem_cons_of_mem _ hlater), List.append_nil]

/-- The replies of a contact: to the call itself, and to the calls inside it. -/
def Contact.replies (remarks : List Remark) (contact : Contact) : List Reply :=
  contact.reply remarks :: repliesOf contact.inner

theorem Carries.repliesIn {output : List (Observation Report)} {contact : Option Contact}
    (h : Carries output contact) (remarks : List Remark) :
    repliesIn remarks output = contact.elim [] (Contact.replies remarks) := by
  obtain ⟨before, after, hbefore, hafter, rfl⟩ := h
  rw [repliesIn_append, repliesIn_append, repliesIn_of_quiet remarks hbefore,
    repliesIn_of_quiet remarks hafter, List.append_nil, List.nil_append]
  cases contact with
  | none => rfl
  | some contact =>
    rw [Option.map_some, Option.toList_some, Host.repliesIn, contact.replies_observation]
    exact List.append_nil _

/-- The engines of two runs have replied the same, as far as both of the runs go. -/
def Concur (replies replies' : List Reply) : Prop :=
  replies <+: replies' ∨ replies' <+: replies

theorem Concur.refl (replies : List Reply) : Concur replies replies :=
  .inl (List.prefix_refl replies)

theorem Concur.cons {reply reply' : Reply} {replies replies' : List Reply}
    (h : Concur (reply :: replies) (reply' :: replies')) :
    reply = reply' ∧ Concur replies replies' := by
  rcases h with h | h
  · obtain ⟨hreply, hrest⟩ := List.cons_prefix_cons.mp h
    exact ⟨hreply, .inl hrest⟩
  · obtain ⟨hreply, hrest⟩ := List.cons_prefix_cons.mp h
    exact ⟨hreply.symm, .inr hrest⟩

/-! ## What is shown -/

/-- Something that can be seen from outside. -/
inductive Shown where
  /-- An entry of the log. -/
  | entry (entry : LogEntry)
  /-- A line for operators. -/
  | line (line : String)
  | result (result : Result)
  /-- The status of a bridge after a step, and the bridge shown for debugging. -/
  | bridge (name : BridgeName) (status : Bridge.Status) (text : String)
  deriving DecidableEq

mutual

def Report.shown : Report → List Shown
  | ⟨_, result, output, own, shared⟩ =>
      shownIn output ++
        [.result result, .bridge .own own.status own.shown,
          .bridge .shared shared.status shared.shown]

/-- What is shown in an output. -/
def shownIn : List (Observation Report) → List Shown
  | [] => []
  | observation :: output => observation.shown ++ shownIn output

def Observation.shown : Observation Report → List Shown
  | .called _ _ none _ => []
  | .called _ _ (some reports) _ => shownOf reports
  | .analyzed _ _ => []
  | .logged event => [.entry event.entry]
  | .analyzerLogged _ event => [.entry event.entry]
  | .printed line => [.line line]

/-- What is shown in some steps, in order. -/
def shownOf : List Report → List Shown
  | [] => []
  | report :: reports => report.shown ++ shownOf reports

end

mutual

theorem Report.shown_redacted : ∀ report : Report, report.redacted.shown = report.shown
  | ⟨step, result, output, own, shared⟩ => by
      rw [Report.redacted, Report.shown, Report.shown, shownIn_redacted output]

theorem shownIn_redacted : ∀ output : List (Observation Report),
    shownIn (redactedIn output) = shownIn output
  | [] => rfl
  | observation :: output => by
      rw [redactedIn, shownIn, shownIn, Observation.shown_redacted observation,
        shownIn_redacted output]

theorem Observation.shown_redacted : ∀ observation : Observation Report,
    observation.redacted.shown = observation.shown
  | .called _ _ none _ => rfl
  | .called _ _ (some reports) _ => shownOf_redacted reports
  | .analyzed _ _ => rfl
  | .logged _ => rfl
  | .analyzerLogged _ _ => rfl
  | .printed _ => rfl

theorem shownOf_redacted : ∀ reports : List Report,
    shownOf (redactedOf reports) = shownOf reports
  | [] => rfl
  | report :: reports => by
      rw [redactedOf, shownOf, shownOf, Report.shown_redacted report, shownOf_redacted reports]

end

end Host
end FailOpen
