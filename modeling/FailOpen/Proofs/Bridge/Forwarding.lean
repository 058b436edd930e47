import FailOpen.Proofs.Timeline.Lawful

/-!
# Where a demand is forwarded

The forwarding law of a bridge: a decision or an ingestion goes to the code whose startup was
accepted in the last change that the bridge has seen, and to nobody else.  Both sides are read off
the reports of a run: `Report.contacts` says who was reached, and `lastAccepted?` what the last
change before the step was.  The states that the bridge keeps are not mentioned; that they agree
with the changes is `runSteps_tracks`.
-/

namespace FailOpen
namespace Host

/-- Whose startup was accepted in the last change of a bridge.  Nobody's, if the bridge has not
changed yet, or if the last change was a failed attempt, a disabling or a shutdown. -/
def lastAccepted? (past : List Change) (name : BridgeName) : Option Party :=
  (latest? past name).bind Change.accepted

variable {setup : Setup}

/-- After lawful changes the engine of a bridge leads to the code whose startup was accepted last. -/
theorem partyOf_stateAfter {start : BridgeName → Bridge.State} {past : List Change}
    {name : BridgeName} (hstart : (start name).engine = .inert)
    (hlawful : ∀ change ∈ past, change.Lawful setup) :
    partyOf (stateAfter start past name).engine = lastAccepted? past name := by
  unfold stateAfter lastAccepted?
  cases hlatest : latest? past name with
  | none =>
    simp [hstart, partyOf]
  | some change =>
    exact (hlawful change (mem_of_latest? hlatest).1).accepted_eq.symm

/-- In a truthful run a demand is answered by the code whose startup was accepted last, if any. -/
theorem answered_of_asks? {before : BridgeName → Bridge.State} {reports : List Report}
    (htruthful : Truthful setup before reports) {occurrence : Occurrence}
    (hoccurrence : occurrence ∈ timelineOf [] reports) {name : BridgeName} {call : Call}
    (hasks : occurrence.report.step.asks? = some (name, call)) :
    ∃ demand : Demand, demand.call = call ∧
      Answered (stateAfter before occurrence.past name).engine demand occurrence.report := by
  obtain ⟨operation, demand, htarget, hdemand, hcall⟩ := Step.demand_of_asks? hasks
  exact ⟨demand, hcall, (htruthful occurrence hoccurrence).demands htarget hdemand⟩

/-- The forwarding law.  In every run that begins with unloaded bridges, with any engines and any
steps inside their calls, a demand reaches some code exactly if the last change of the bridge, of
those completed before the demand began, was made by an attempt in which that code accepted the
startup.  It is then called once, with the data of the demand, and nobody else is called; in every
other case nobody is called and the answer is no. -/
theorem reaches_iff_lastAccepted? {depth : Nat} {steps : List Step} {host : Host}
    (hunloaded : ∀ name, host.bridge name = .unloaded) {occurrence : Occurrence}
    (hoccurrence : occurrence ∈ timelineOf [] ((runSteps setup depth steps).run host).1)
    {name : BridgeName} {call : Call}
    (hasks : occurrence.report.step.asks? = some (name, call)) :
    (∀ party, (∃ contact ∈ occurrence.report.contacts, contact.party = party) ↔
        lastAccepted? occurrence.past name = some party) ∧
      (∀ contact ∈ occurrence.report.contacts,
        occurrence.report.contacts = [contact] ∧ contact.call = call) ∧
      (lastAccepted? occurrence.past name = none →
        occurrence.report.contacts = [] ∧
          occurrence.report.result = occurrence.report.step.shows false) := by
  obtain ⟨-, -, htruthful⟩ := @runSteps_tracks setup depth steps host
  have hparty : partyOf (stateAfter host.bridge occurrence.past name).engine =
      lastAccepted? occurrence.past name :=
    partyOf_stateAfter (by rw [hunloaded]; rfl) fun change hmem =>
      lawful_of_mem_span htruthful hoccurrence (List.mem_append_left _ hmem)
  obtain ⟨demand, rfl, hanswered⟩ := answered_of_asks? htruthful hoccurrence hasks
  unfold Answered at hanswered
  rw [hparty] at hanswered
  cases hlast : lastAccepted? occurrence.past name with
  | none =>
    rw [hlast] at hanswered
    obtain ⟨hcontacts, hresult⟩ := hanswered
    rw [hcontacts]
    refine ⟨fun party => ⟨?_, ?_⟩, ?_, fun _ => ⟨rfl, hresult⟩⟩
    · rintro ⟨contact, hmem, -⟩
      cases hmem
    · intro h
      cases h
    · intro contact hmem
      cases hmem
  | some party =>
    rw [hlast] at hanswered
    obtain ⟨nested, answer, hcontacts, -⟩ := hanswered
    rw [hcontacts]
    refine ⟨fun other => by simp, fun contact hmem => ?_, fun h => nomatch h⟩
    obtain rfl := List.mem_singleton.mp hmem
    exact ⟨rfl, rfl⟩

/-- Two engines.  The first one, asked for its first decision, starts the second and asks again; the
second one asks for a decision while it starts. -/
def takeover : Setup where
  supplied name := .custom name
  custom name :=
    { startup := fun _ _ =>
        if name = "second" then
          .callBack (.ofSteps [.bridge .own (.decideBlock default)] (.returned true))
        else .answer (.returned true)
      block := fun before _ =>
        if name = "first" ∧ EntryPoint.block.isFresh before then
          .callBack (.ofSteps [.bridge .own (.startSupplied "second" default),
            .bridge .own (.decideBlock default)] (.returned false))
        else .answer (.returned false)
      ingest := fun _ _ => .answer (.returned ()) }

/-- The reports of starting the first engine and asking it for a decision. -/
def takeoverReports : List Report :=
  ((runSteps takeover 3 [.bridge .own (.startSupplied "first" default),
    .bridge .own (.decideBlock default)]).run oneLibrary).1

/-- The question that the first engine asks after it has started the second reaches the second,
although the first one is still in its own call. -/
theorem takeover_reaches_second :
    ∃ occurrence ∈ timelineOf [] takeoverReports,
      occurrence.report.step.asks? = some (.own, .block default) ∧
        ∃ contact, occurrence.report.contacts = [contact] ∧
          contact.party = .custom "second" ∧ contact.call = .block default := by
  have hexists : ∃ occurrence ∈ timelineOf [] takeoverReports,
      occurrence.report.step.asks? = some (.own, .block default) ∧
        lastAccepted? occurrence.past .own = some (.custom "second") := by decide +kernel
  obtain ⟨occurrence, hoccurrence, hasks, hlast⟩ := hexists
  obtain ⟨hreaches, honce, -⟩ :=
    reaches_iff_lastAccepted? (fun name => by cases name <;> rfl) hoccurrence hasks
  obtain ⟨contact, hmem, hparty⟩ := (hreaches (.custom "second")).mpr hlast
  obtain ⟨hcontacts, hcall⟩ := honce contact hmem
  exact ⟨occurrence, hoccurrence, hasks, contact, hcontacts, hparty, hcall⟩

end Host
end FailOpen
