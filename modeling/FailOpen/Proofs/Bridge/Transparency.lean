import FailOpen.Proofs.Bridge.InFlight
import FailOpen.Proofs.Timeline.Requests
import FailOpen.Scenario.Analyzers

/-!
# A bridge over an analyzer

An engine over the entry points of an analyzer goes through two layers that both turn truth values
into bytes, catch panics and keep a state of their own: the entry points with their slot, and the
bridge with its status.  This module shows that the two fit together, so that a host that uses the
bridge talks to the analyzer itself.

* `filled_invariant`: as long as a bridge has an engine over the analyzer, the slot is filled.
* `report_startup` and `report_demand` say what a single step shows.
* `transparent_of_moment` puts this together, for every moment of every run.
-/

namespace FailOpen
namespace Host

open Analyzer (Request)

/-! ## Ways to an engine over some code -/

section

variable {setup : Setup} {host : Host} {name : BridgeName} {operation : Operation} {code : Code}

/-- An attempt that is given an engine with code reaches that engine. -/
theorem Goes.of_supplies {engine : Engine} {args : Startup.Arguments} {course : Course}
    (hgoes : Goes setup host name operation course)
    (hsupplies : operation.supplies? setup = some (engine, args)) (hengine : engine ≠ .inert) :
    ∃ visit, course = .reach (.attempt name engine none) visit ∧
      visitOf setup host engine (.startup args) = some visit := by
  cases hvisit : visitOf setup host engine (.startup args) with
  | none => exact (hengine ((visitOf_eq_none_iff setup).mp hvisit)).elim
  | some visit => exact ⟨visit, hgoes.unique (.startsSupplied hsupplies hvisit), rfl⟩

end

/-! ## The slot behind a bridge -/

section

variable {setup : Setup} {unit : String} {analyzer : Analyzer}

theorem ne_inert_of_partyOf {engine : Engine} {party : Party} (h : partyOf engine = some party) :
    engine ≠ .inert := by
  rintro rfl
  cases h

/-- Once the slot of a linked analyzer is filled, it is filled for good. -/
theorem isSome_slot_invariant (hprogram : setup.program (.linked unit) = .analyzer analyzer) :
    Invariant setup fun host => (host.statics (.linked unit)).slot.isSome where
  observes h _ := h
  registers h _ _ := h
  stores h _ := h
  calls hvisit h := by
    rw [(heeds_directVisit hprogram (alive_linked _ unit) hvisit).slot]
    exact Analyzer.isSome_foldl_accept h _
  replaces hgoes h := by
    rw [(statics_replacing (alive_linked _ unit)).2, hgoes.statics_start (alive_linked _ unit)]
    exact h
  enters hgoes h := by
    rw [(hgoes.heeds hprogram (alive_linked _ unit)).slot]
    exact Analyzer.isSome_foldl_accept h _
  leaves _ _ _ h _ := by
    rw [(Frame.statics_leave (alive_linked _ unit)).2]
    exact h

/-- The slot is filled if a bridge has an engine over the analyzer. -/
def Filled (unit : String) (host : Host) : Prop :=
  ∀ name, partyOf (host.bridge name).engine = some (.code (.linked unit)) →
    (host.statics (.linked unit)).slot.isSome

theorem Filled.of_eq {host next : Host} (h : Filled unit host) (hbridge : next.bridge = host.bridge)
    (hslot : (host.statics (.linked unit)).slot.isSome →
      (next.statics (.linked unit)).slot.isSome) : Filled unit next := by
  intro name hparty
  rw [hbridge] at hparty
  exact hslot (h name hparty)

/-- An accepted startup of the analyzer has left the slot filled. -/
theorem isSome_slot_of_accepts (hprogram : setup.program (.linked unit) = .analyzer analyzer)
    {host : Host} {name attempted : BridgeName} {operation : Operation} {engine : Engine}
    {module : Option Loader.Module} {visit : Visit}
    (hgoes : Goes setup host name operation (.reach (.attempt attempted engine module) visit))
    (hparty : partyOf engine = some (.code (.linked unit))) {run : Runner}
    (haccepts : (visit.answer run).accepts) :
    (visit.host.statics (.linked unit)).slot.isSome := by
  generalize hframe : Frame.attempt attempted engine module = frame at hgoes
  cases hgoes with
  | startsLoaded hloads hload hcomplete hvisit =>
    obtain ⟨-, rfl, -⟩ := Frame.attempt.inj hframe
    cases hparty
  | @startsSupplied supplied args visit hsupplies hvisit =>
    obtain ⟨-, rfl, -⟩ := Frame.attempt.inj hframe
    obtain rfl := eq_entryVisit_of_partyOf hvisit hparty
    obtain ⟨hplain, -, hstatics⟩ :=
      entryVisit_startup hprogram (alive_linked host unit) args.raw
    rw [Demand.call, hplain.answer_eq run, (byte_answer _).2.1] at haccepts
    rw [Demand.call, hstatics]
    rw [Analyzer.isSome_foldl_demanded]
    exact haccepts
  | @forwards engine demand visit hdemand hengine hvisit => cases demand <;> cases hframe

/-- As long as a bridge has an engine over the analyzer, the slot is filled. -/
theorem filled_invariant (hprogram : setup.program (.linked unit) = .analyzer analyzer) :
    Invariant setup (Filled unit) where
  observes h output := h.of_eq (funext fun name => by cases name <;> rfl) id
  registers h cleanup failures := h.of_eq (funext fun name => by cases name <;> rfl) id
  stores h disk := h.of_eq (bridge_withDisk _ disk) id
  calls hvisit h :=
    h.of_eq (directVisit_from hvisit).bridge ((isSome_slot_invariant hprogram).calls hvisit)
  replaces := by
    intro host name operation next start notes b hgoes h other hparty
    refine (isSome_slot_invariant hprogram).replaces hgoes (h other ?_)
    rcases hgoes.engine_replacing other with hinert | hsame
    · rw [hinert] at hparty
      cases hparty
    · rwa [hsame] at hparty
  enters hgoes h := h.of_eq hgoes.bridge_enter ((isSome_slot_invariant hprogram).enters hgoes)
  leaves := by
    intro host name operation frame visit after hgoes h hfollows hafter run other hparty
    have hsame : (frame.leave (visit.answer run) after).statics (.linked unit) =
        after.statics (.linked unit) := (Frame.statics_leave (alive_linked _ unit)).2
    rw [hsame]
    rcases frame.engine_leave (visit.answer run) after other with
      hinert | hkept | ⟨engine, module, rfl, haccepts, hengine⟩
    · rw [hinert] at hparty
      cases hparty
    · rw [hkept] at hparty
      exact hafter other hparty
    · -- an accepted startup has filled the slot, and nothing has emptied it since
      rw [hengine] at hparty
      refine (isSome_slot_invariant hprogram).holds_follows hfollows ?_
      exact isSome_slot_of_accepts hprogram hgoes hparty haccepts

end

/-! ## Single steps -/

section

variable {setup : Setup} {unit : String} {analyzer : Analyzer} {run : Runner} {host : Host}
  {step : Step} {name : BridgeName} {operation : Operation}

/-- An attempt whose startup is answered with the byte for a truth value, without calling back. -/
theorem report_of_attempt (hrun : Tracks setup run) {engine : Engine}
    {module : Option Loader.Module} {visit : Visit}
    (hgoes : Goes setup (host.beginning.observe step.preface) name operation
      (.reach (.attempt name engine module) visit))
    (hperform : (perform setup run step).run host.beginning =
      (step.shows (visit.answer run).accepts,
        ((Frame.attempt name engine module).leave (visit.answer run) (visit.ending run)).closing
          setup step))
    {b : Bool} (hplain : visit.Plain (.byte (if b then 1 else 0))) :
    let ran := (report setup run step).run host
    ran.1.result = step.shows b ∧
      (∀ other, ran.2.bridge other =
        if name = other then attemptState (.returned b) engine module else host.bridge other) ∧
      ran.1.contacts = [⟨visit.party, visit.call, none, .byte (if b then 1 else 0)⟩] := by
  intro ran
  obtain ⟨hcontacts, hresult, -, hafter⟩ := report_of_reach hrun hgoes hperform hplain
  refine ⟨?_, fun other => ?_, hcontacts⟩
  · rw [hresult, Frame.yields, (byte_answer b).2.1]
  · have hleave := Frame.bridge_leave_attempt name engine module (.byte (if b then 1 else 0))
      (visit.ending run) other
    have hentered : (visit.ending run).bridge = host.bridge := by
      rw [visit.ending_of_callbacks (hplain.callbacks_eq run), bridge_observe, hgoes.bridge_enter,
        bridge_observe, bridge_beginning]
    rw [hentered, (byte_answer b).1] at hleave
    rw [← hleave, hafter, bridge_withOutput, bridge_closing]

/-- An attempt with an engine over the analyzer: it succeeds if the slot is filled, or else if the
analyzer accepts the configuration in the arguments, and in no other case. -/
theorem report_startup (hprogram : setup.program (.linked unit) = .analyzer analyzer)
    (hrun : Tracks setup run) (htarget : step.target? = some (name, operation)) {engine : Engine}
    {args : Startup.Arguments} (hsupplies : operation.supplies? setup = some (engine, args))
    (hparty : partyOf engine = some (.code (.linked unit))) :
    let memory := (host.linked unit).toMemory
    let accepted := analyzer.fills memory args.raw.config
    let ran := (report setup run step).run host
    ran.1.result = step.shows accepted ∧
      ran.2.bridge name = attemptState (.returned accepted) engine none ∧
      ran.1.contacts =
        [⟨.code (.linked unit), .startup args.raw, none, .byte (if accepted then 1 else 0)⟩] ∧
      ran.1.requests (.linked unit) = Analyzer.demanded memory.slot args.raw.config := by
  intro memory accepted ran
  obtain ⟨course, hgoes, hperforms⟩ := exists_goes_of_target setup htarget host.beginning
  obtain ⟨visit, rfl, hvisit⟩ := hgoes.of_supplies hsupplies (ne_inert_of_partyOf hparty)
  have hentry := eq_entryVisit_of_partyOf hvisit hparty
  obtain ⟨hplain, hnotes, -⟩ := entryVisit_startup hprogram
    (alive_linked (host.beginning.observe step.preface) unit) args.raw
  obtain ⟨hvisited, hcalled⟩ := entryVisit_party setup (host.beginning.observe step.preface)
    (.linked unit) (.startup args.raw)
  change visit = entryVisit setup _ (.linked unit) (.startup args.raw) at hentry
  rw [← hentry] at hplain hnotes hvisited hcalled
  obtain ⟨hresult, hbridge, hcontacts⟩ := report_of_attempt hrun hgoes (hperforms run) hplain
  obtain ⟨-, -, hrequests, -⟩ := report_of_reach hrun hgoes (hperforms run) hplain
  rw [hvisited, hcalled] at hcontacts
  exact ⟨hresult, (hbridge name).trans (if_pos rfl), hcontacts, (hrequests _).trans hnotes⟩

/-- The request by which the analyzer gets a demand. -/
def Demand.request : Demand → Request
  | .startup args => .start args.raw.config
  | .block exchange => .block exchange.read
  | .ingest trace => .ingest trace.read

/-- What a started analyzer makes of a demand, after all that it was asked.  Only a decision yields a
truth value. -/
def decision (analyzer : Analyzer) (asked : List Request) (started : Analyzer.Instance) :
    Demand → Bool
  | .block exchange => analyzer.decides asked started exchange.read
  | _ => false

/-- An entry point of a started analyzer that gets a demand of the host: the instance in the slot gets
it, once, and its answer yields its decision. -/
theorem entryVisit_demand {code : Code} (hprogram : setup.program code = .analyzer analyzer)
    (halive : host.Alive code) {started : Analyzer.Instance}
    (hslot : (host.statics code).slot = some started) {demand : Demand}
    (hdemand : operation.demand? = some demand) :
    let visit := entryVisit setup host code demand.call
    (∃ answer, visit.Plain answer ∧
      demand.yields answer = decision analyzer (host.statics code).asked started demand) ∧
      visit.notes.filterMap (Observation.request? code) = [demand.request] ∧
      (visit.host.statics code).slot = some (started.receive demand.request) := by
  intro visit
  cases demand with
  | startup args => cases operation <;> cases hdemand
  | block exchange =>
    obtain ⟨hplain, hrest⟩ := entryVisit_block hprogram halive hslot exchange
    exact ⟨⟨_, hplain, (byte_answer _).2.2⟩, hrest⟩
  | ingest trace =>
    obtain ⟨hplain, hrest⟩ := entryVisit_ingest hprogram halive hslot trace
    exact ⟨⟨_, hplain, rfl⟩, hrest⟩

/-- A demand to an engine over the started analyzer: the instance in the slot gets it, once, and its
answer is the result. -/
theorem report_demand (hprogram : setup.program (.linked unit) = .analyzer analyzer)
    (hrun : Tracks setup run) (htarget : step.target? = some (name, operation)) {demand : Demand}
    (hdemand : operation.demand? = some demand)
    (hparty : partyOf (host.bridge name).engine = some (.code (.linked unit)))
    {started : Analyzer.Instance} (hslot : (host.linked unit).slot = some started) :
    let ran := (report setup run step).run host
    ran.1.result = step.shows (decision analyzer (host.linked unit).asked started demand) ∧
      ran.1.requests (.linked unit) = [demand.request] ∧
      (ran.2.linked unit).slot = some (started.receive demand.request) := by
  intro ran
  obtain ⟨course, hgoes, hperforms⟩ := exists_goes_of_target setup htarget host.beginning
  have hbridge : (host.beginning.observe step.preface).bridge = host.bridge := by
    rw [bridge_observe, bridge_beginning]
  rcases hgoes.of_demand hdemand with ⟨hinert, -⟩ | ⟨visit, rfl, hvisit⟩
  · rw [hbridge] at hinert
    exact (ne_inert_of_partyOf hparty hinert).elim
  · rw [hbridge] at hvisit hgoes hperforms
    have hentry := eq_entryVisit_of_partyOf hvisit hparty
    have hfound : ((((host.beginning.observe step.preface).holding
        (host.bridge name).engine.module?).statics (.linked unit)).slot) = some started := by
      rw [statics_holding, statics_observe, statics_beginning]
      exact hslot
    obtain ⟨⟨answer, hplain, hyields⟩, hnotes, hfilled⟩ :=
      entryVisit_demand hprogram (alive_linked _ unit) hfound hdemand
    rw [← hentry] at hplain hnotes hfilled
    rw [statics_holding, statics_observe, statics_beginning] at hyields
    obtain ⟨-, hresult, hrequests, -⟩ := report_of_reach hrun hgoes (hperforms run) hplain
    have hafter := statics_report_of_reach hrun hgoes (hperforms run) hplain (.linked unit)
      (alive_linked _ unit)
    refine ⟨?_, (hrequests _).trans hnotes, ?_⟩
    · rw [hresult, Frame.yields_frameOf hdemand, hyields]
      rfl
    · change (ran.2.statics (.linked unit)).slot = _
      rw [hafter, hfilled]

end

/-! ## All moments of a run -/

/-- At this moment, the host that uses a bridge with an engine over the analyzer talks to the analyzer
itself. -/
structure Transparent (setup : Setup) (unit : String) (analyzer : Analyzer) (host : Host) :
    Prop where
  /-- As long as a bridge has such an engine the slot is filled. -/
  filled : ∀ {name}, partyOf (host.bridge name).engine = some (.code (.linked unit)) →
    (host.linked unit).slot.isSome
  /-- An attempt with such an engine succeeds exactly if the slot is filled or the analyzer accepts
  the configuration in the arguments, which it is asked for only if the slot is empty. -/
  attempts : ∀ {step name operation engine args}, step.target? = some (name, operation) →
    operation.supplies? setup = some (engine, args) →
      partyOf engine = some (.code (.linked unit)) → ∀ nesting,
        let memory := (host.linked unit).toMemory
        let accepted := analyzer.fills memory args.raw.config
        let ran := (report setup (calledBack setup nesting) step).run host
        ran.1.result = step.shows accepted ∧
          ran.2.bridge name = attemptState (.returned accepted) engine none ∧
          ran.1.contacts = [⟨.code (.linked unit), .startup args.raw, none,
            .byte (if accepted then 1 else 0)⟩] ∧
          ran.1.requests (.linked unit) = Analyzer.demanded memory.slot args.raw.config
  /-- A demand to such an engine is put to the instance in the slot, once, and its decision is the
  result. -/
  demands : ∀ {step name operation demand}, step.target? = some (name, operation) →
    operation.demand? = some demand →
      partyOf (host.bridge name).engine = some (.code (.linked unit)) →
        ∃ started, (host.linked unit).slot = some started ∧ ∀ nesting,
          let ran := (report setup (calledBack setup nesting) step).run host
          ran.1.result = step.shows (decision analyzer (host.linked unit).asked started demand) ∧
            ran.1.requests (.linked unit) = [demand.request] ∧
            (ran.2.linked unit).slot = some (started.receive demand.request)
  /-- From here on, the memory of the analyzer is what the requests have made of it, whatever else
  happens. -/
  heeds : ∀ nesting later,
    let ran := (runSteps setup nesting later).run host
    (ran.2.linked unit).toMemory =
      (requestsOf (.linked unit) ran.1).foldl analyzer.accept (host.linked unit).toMemory
  /-- An instance in the slot is never replaced: it only receives what is handed over. -/
  kept : ∀ {started}, (host.linked unit).slot = some started → ∀ nesting later,
    let ran := (runSteps setup nesting later).run host
    (ran.2.linked unit).slot = some { started with
      received := started.received ++
        (requestsOf (.linked unit) ran.1).filter Request.isHandedOver }

/-- In every run that begins with unloaded bridges, with any analyzer in a linked unit, any slot and
any other engines, every bridge is transparent over the analyzer at every moment. -/
theorem transparent_of_moment {setup : Setup} {unit : String} {analyzer : Analyzer}
    (hprogram : setup.program (.linked unit) = .analyzer analyzer) {start : Host}
    (hunloaded : ∀ name, start.bridge name = .unloaded) {depth : Nat} {steps : List Step}
    {inCalls : Multiset Loader.Module} {host : Host}
    (hmoment : Moment setup depth start steps inCalls host) :
    Transparent setup unit analyzer host := by
  have hfilled : Filled unit host :=
    (filled_invariant hprogram).holds_moment hmoment fun name hparty => by
      rw [hunloaded name] at hparty
      cases hparty
  have haccounted := hmoment.accounted (accounted_of_unloaded hunloaded)
  have hheeds : ∀ nesting later,
      ((((runSteps setup nesting later).run host).2.linked unit).toMemory =
        (requestsOf (.linked unit) ((runSteps setup nesting later).run host).1).foldl
          analyzer.accept (host.linked unit).toMemory) := fun nesting later =>
    (memoryKept_of_run hprogram .own nesting later host _ _ haccounted trivial
      fun _ _ _ => trivial).2.2
  refine ⟨fun hparty => hfilled _ hparty, fun htarget hsupplies hparty nesting => ?_,
    fun {step name operation demand} htarget hdemand hparty => ?_, hheeds,
    fun {started} hslot nesting later => ?_⟩
  · exact report_startup hprogram (calledBack_tracks nesting) htarget hsupplies hparty
  · obtain ⟨started, hslot⟩ := Option.isSome_iff_exists.mp (hfilled name hparty)
    refine ⟨started, hslot, fun nesting => ?_⟩
    exact report_demand hprogram (calledBack_tracks nesting) htarget hdemand hparty hslot
  · intro ran
    rw [← Analyzer.foldl_accept_some hslot]
    exact congrArg Analyzer.Memory.slot (hheeds nesting later)

/-- Every name stands for an engine over the same analyzer, which needs an API key. -/
def keyed : Setup where
  supplied _ := .linked "unit"
  linked _ := .analyzer Scenario.fixture

/-- An exchange that comes in. -/
def incomingExchange : Traffic.Record.Exchange :=
  { origin := { incoming := true } }

/-- Startup arguments with an API key. -/
def keyArguments : Startup.Arguments :=
  { (default : Startup.Arguments) with apiKey := ⟨[107], by decide⟩ }

/-- The process after an attempt without a key, which has failed, and one with a key. -/
def keyedHost : Host :=
  ((runSteps keyed 0 [.bridge .own (.startSupplied "engine" default),
    .bridge .own (.startSupplied "engine" keyArguments)]).run oneLibrary).2

/-- The second attempt has filled the slot, so a third one succeeds without a key, and what is
incoming is blocked by the instance that the second attempt has started. -/
theorem keyedHost_transparent :
    (∃ started, (keyedHost.linked "unit").slot = some started ∧ started.config.apiKey = "k") ∧
      ((report keyed (calledBack keyed 0) (.bridge .shared (.startSupplied "other" default))).run
        keyedHost).1.result = .flag true ∧
      ((report keyed (calledBack keyed 0) (.bridge .own (.decideBlock incomingExchange))).run
        keyedHost).1.result = .flag true := by
  have hslot : (keyedHost.linked "unit").slot = some ⟨keyArguments.raw.config, []⟩ := by
    decide +kernel
  have hparty : partyOf (keyedHost.bridge .own).engine = some (.code (.linked "unit")) := by
    decide +kernel
  have hmoment : Moment keyed 0 oneLibrary [.bridge .own (.startSupplied "engine" default),
      .bridge .own (.startSupplied "engine" keyArguments)] 0 keyedHost :=
    .between 0 oneLibrary [_, _] []
  have hprogram : keyed.program (.linked "unit") = .analyzer Scenario.fixture := rfl
  have htransparent := transparent_of_moment hprogram (fun name => by cases name <;> rfl) hmoment
  have hattempt : (Step.bridge .shared (.startSupplied "other" default)).target? =
      some (.shared, .startSupplied "other" default) := rfl
  have hdecision : (Step.bridge .own (.decideBlock incomingExchange)).target? =
      some (.own, .decideBlock incomingExchange) := rfl
  obtain ⟨hresult, -⟩ := htransparent.attempts hattempt rfl rfl 0
  obtain ⟨started, hstarted, hdemand⟩ := htransparent.demands hdecision rfl hparty
  obtain rfl := Option.some.inj (hslot.symm.trans hstarted)
  refine ⟨⟨_, hslot, by decide +kernel⟩, ?_, (hdemand 0).1⟩
  rw [hresult, Analyzer.fills, hslot]
  rfl

end Host
end FailOpen
