import FailOpen.Proofs.Timeline.Runs

/-!
# What a run writes

The events and operator lines of a run, in the order in which they are written.  Those of a step that
was made inside a call stand where the call was made, between what the calling step has written before
and after it.

* `messagesOf` lists them for some reports, and `Report.said` those that a step has written itself.
* `Paired` says that lines go with warnings: each line directly follows the warning that it repeats,
  and no warning of this kind is without a line.

The log of analyzers is left out: it is not the bridge that writes it.
-/

namespace FailOpen
namespace Host

/-! ## Messages -/

/-- What a bridge writes: an event to its log, or a line to operators. -/
inductive Message where
  | event (event : Bridge.Event)
  | line (line : String)
  deriving DecidableEq

namespace Message

def event? : Message → Option Bridge.Event
  | .event written => some written
  | .line _ => none

def line? : Message → Option String
  | .event _ => none
  | .line written => some written

/-- The detail of a warning that there is no engine. -/
def detail? : Message → Option String
  | .event written =>
      match written.entry with
      | ⟨.warn, "Engine unavailable", [("detail", .text detail)]⟩ => some detail
      | _ => none
  | .line _ => none

end Message

/-- What is written in an observation. -/
def Observation.message? : Observation Report → Option Message
  | .logged event => some (.event event)
  | .printed line => some (.line line)
  | _ => none

/-- What is written in an output, not counting the steps inside its calls. -/
def saidIn (output : List (Observation Report)) : List Message :=
  output.filterMap Observation.message?

/-- What a step has written itself. -/
def Report.said (report : Report) : List Message :=
  saidIn report.output

mutual

/-- What was written in a step. -/
def Report.messages : Report → List Message
  | ⟨_, _, output, _, _⟩ => messagesIn output

/-- What was written in an output. -/
def messagesIn : List (Observation Report) → List Message
  | [] => []
  | observation :: output => observation.messages ++ messagesIn output

/-- What was written in an observation, or inside a call. -/
def Observation.messages : Observation Report → List Message
  | .called _ _ (some reports) _ => messagesOf reports
  | .logged event => [.event event]
  | .printed line => [.line line]
  | _ => []

/-- What was written in some steps, those inside calls included. -/
def messagesOf : List Report → List Message
  | [] => []
  | report :: reports => report.messages ++ messagesOf reports

end

@[simp] theorem saidIn_append (first second : List (Observation Report)) :
    saidIn (first ++ second) = saidIn first ++ saidIn second :=
  List.filterMap_append

/-- What is observed behind a call to an analyzer is not written by a bridge. -/
theorem saidIn_noteObservation (code : Code) (notes : List Analyzer.Note) :
    saidIn (notes.map (noteObservation code)) = [] := by
  rw [saidIn, List.filterMap_map, List.filterMap_eq_nil_iff]
  intro note _
  cases note <;> rfl

theorem saidIn_entryVisit (setup : Setup) (host : Host) (code : Code) (call : Call) :
    saidIn (entryVisit setup host code call).notes = [] := by
  unfold entryVisit
  cases setup.program code with
  | coded entryCode => rfl
  | analyzer analyzer => exact saidIn_noteObservation code _

theorem saidIn_visitOf {setup : Setup} {host : Host} {engine : Engine} {demand : Demand}
    {visit : Visit} (hvisit : visitOf setup host engine demand = some visit) :
    saidIn visit.notes = [] := by
  cases engine with
  | inert => cases hvisit
  | custom name =>
    obtain rfl := Option.some.inj hvisit
    rfl
  | native native =>
    obtain rfl := Option.some.inj hvisit
    exact saidIn_entryVisit setup host native.code demand.call

/-- What some steps have said themselves, one step after the other. -/
def saidBy (occurrences : List Occurrence) : List Message :=
  occurrences.flatMap fun occurrence => occurrence.report.said

mutual

theorem Report.messages_perm (past : List Change) : ∀ report : Report,
    report.messages.Perm (saidBy (report.timeline past))
  | ⟨_, _, output, _, _⟩ => messagesIn_perm past output

/-- What was written in an output was said by the step itself, or inside one of its calls. -/
theorem messagesIn_perm (past : List Change) : ∀ output : List (Observation Report),
    (messagesIn output).Perm (saidIn output ++ saidBy (timelineIn past output))
  | [] => .nil
  | observation :: output => by
      have hfirst := observation.messages_perm past
      have hothers := messagesIn_perm (past ++ observation.changes) output
      have hsaid : saidIn (observation :: output) =
          observation.message?.toList ++ saidIn output := by
        unfold saidIn
        cases hmessage : observation.message? <;> simp [hmessage]
      rw [messagesIn, timelineIn, saidBy, List.flatMap_append, hsaid]
      refine (hfirst.append hothers).trans ?_
      simpa only [saidBy, List.append_assoc] using
        (List.perm_append_comm_assoc _ (saidIn output) _).append_left observation.message?.toList

theorem Observation.messages_perm (past : List Change) : ∀ observation : Observation Report,
    observation.messages.Perm
      (observation.message?.toList ++ saidBy (observation.timeline past))
  | .called _ _ (some reports) _ => messagesOf_perm past reports
  | .called _ _ none _ => .nil
  | .analyzed _ _ => .nil
  | .logged _ => .refl _
  | .analyzerLogged _ _ => .nil
  | .printed _ => .refl _

/-- Whatever is written in some steps was said by one of them, or by a step inside one of them. -/
theorem messagesOf_perm (past : List Change) : ∀ reports : List Report,
    (messagesOf reports).Perm (saidBy (timelineOf past reports))
  | [] => .nil
  | report :: reports => by
      rw [messagesOf, timelineOf, saidBy, List.flatMap_append]
      exact (report.messages_perm past).append (messagesOf_perm (past ++ report.changes) reports)

end

/-! ## Warnings and lines -/

/-- A failure as it is written: a warning, and the same to operators. -/
def diagnosed (detail : String) : List Message :=
  [.event (.unavailable detail), .line (Bridge.operatorLine detail)]

/-- Each line directly follows the warning that it repeats, and each such warning has its line. -/
inductive Paired : List Message → Prop
  | nil : Paired []
  | diagnosed (detail : String) {messages : List Message} (h : Paired messages) :
      Paired (diagnosed detail ++ messages)
  | event {event : Bridge.Event} {messages : List Message}
      (hevent : (Message.event event).detail? = none) (h : Paired messages) :
      Paired (.event event :: messages)

theorem Paired.append {first second : List Message} (hfirst : Paired first)
    (hsecond : Paired second) : Paired (first ++ second) := by
  induction hfirst with
  | nil => exact hsecond
  | diagnosed detail h ih =>
    rw [List.append_assoc]
    exact .diagnosed detail ih
  | event hevent h ih => exact .event hevent ih

theorem operatorLine_eq (detail : String) : Bridge.operatorLine detail = "Metlo: " ++ detail := by
  rw [Bridge.operatorLine, show Bridge.operatorMark ++ " " = "Metlo: " by decide]

/-- The lines are those of the warnings, one for one and in order. -/
theorem Paired.lines {messages : List Message} (h : Paired messages) :
    messages.filterMap Message.line? =
      (messages.filterMap Message.detail?).map fun detail => "Metlo: " ++ detail := by
  induction h with
  | nil => rfl
  | diagnosed detail h ih =>
    rw [List.filterMap_append, List.filterMap_append, ih, List.map_append]
    change [Bridge.operatorLine detail] ++ _ = ["Metlo: " ++ detail] ++ _
    rw [operatorLine_eq]
  | event hevent h ih =>
    rw [List.filterMap_cons_none hevent, ← ih]
    rfl

end Host
end FailOpen
