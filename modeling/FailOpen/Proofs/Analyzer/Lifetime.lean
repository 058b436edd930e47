import FailOpen.Proofs.Bridge.Transparency

/-!
# An analyzer is started once

The entry points around an analyzer are called in any order, with any arguments and any number of
times, without a bridge.  Until a startup is accepted, the slot is empty and nothing reaches an
instance; that startup decides for good which instance it is.

* `serve` is the step: what a single call makes of the memory.
* `foldl_serve_some` and `foldl_serve_none` are the runs: a filled slot keeps its instance, and an
  empty one has been filled by the first startup that the analyzer accepts, or not at all.
* `report_entry` says that a process that calls an entry point does just this.

What the entry points write to the log is left out.
-/

namespace FailOpen

open Analyzer (Instance Memory Request)

/-- What a call hands to a started analyzer. -/
def Call.handed? : Call → Option Request
  | .startup _ => none
  | .block exchange => some (.block exchange.read)
  | .ingest trace => some (.ingest trace.read)

/-- What a call passes on to the analyzer: a startup only asks for an instance if there is none, and
every other call needs one. -/
def Call.passes (slot : Option Instance) : Call → List Request
  | .startup args => Analyzer.demanded slot args.config
  | call => if slot.isSome then call.handed?.toList else []

namespace Analyzer

variable {analyzer : Analyzer} {memory : Memory} {started : Instance}

/-- The memory after a call to an entry point. -/
def serve (analyzer : Analyzer) (memory : Memory) (call : Call) : Memory :=
  (call.passes memory.slot).foldl analyzer.accept memory

/-! ## One call -/

theorem serve_some (hslot : memory.slot = some started) (call : Call) :
    (analyzer.serve memory call).slot =
      some { started with received := started.received ++ call.handed?.toList } := by
  rw [serve, foldl_accept_some hslot, hslot]
  cases call <;> rfl

theorem serve_startup (args : Startup.RawArguments) :
    (analyzer.serve memory (.startup args)).slot.isSome = analyzer.fills memory args.config :=
  isSome_foldl_demanded args.config

theorem serve_none_startup (hslot : memory.slot = none) {args : Startup.RawArguments}
    (h : analyzer.starts memory.asked args.config) :
    (analyzer.serve memory (.startup args)).slot = some { config := args.config } := by
  rw [serve, Call.passes, hslot]
  change analyzer.fill memory.asked memory.slot (.start args.config) = _
  rw [hslot, fill, if_pos h]

/-- Only a startup fills the slot. -/
theorem startup_of_serve_some (hslot : memory.slot = none) {call : Call}
    (h : (analyzer.serve memory call).slot = some started) :
    ∃ args, call = .startup args ∧ analyzer.starts memory.asked args.config ∧
      started = { config := args.config } := by
  cases call with
  | startup args =>
    have hstarts : analyzer.starts memory.asked args.config := by
      have hfills : (analyzer.serve memory (.startup args)).slot.isSome = _ := serve_startup args
      rwa [h, fills, hslot, eq_comm] at hfills
    rw [serve_none_startup hslot hstarts] at h
    exact ⟨args, rfl, hstarts, (Option.some.inj h).symm⟩
  | block exchange =>
    have hidle : analyzer.serve memory (.block exchange) = memory := by
      simp [serve, Call.passes, hslot]
    rw [hidle, hslot] at h
    cases h
  | ingest trace =>
    have hidle : analyzer.serve memory (.ingest trace) = memory := by
      simp [serve, Call.passes, hslot]
    rw [hidle, hslot] at h
    cases h

/-! ## Any number of calls -/

/-- The instance in a filled slot stays, and receives whatever is handed over. -/
theorem foldl_serve_some (hslot : memory.slot = some started) (calls : List Call) :
    (calls.foldl analyzer.serve memory).slot =
      some { started with received := started.received ++ calls.filterMap Call.handed? } := by
  induction calls generalizing memory started with
  | nil =>
    rw [List.filterMap_nil, List.append_nil]
    exact hslot
  | cons call calls ih =>
    rw [List.foldl_cons, ih (serve_some hslot call), List.append_assoc]
    cases call <;> rfl

/-- What is empty after some calls has been empty all along. -/
theorem foldl_serve_none_of_append {calls later : List Call}
    (h : ((calls ++ later).foldl analyzer.serve memory).slot = none) :
    (calls.foldl analyzer.serve memory).slot = none := by
  rw [List.foldl_append] at h
  cases hslot : (calls.foldl analyzer.serve memory).slot with
  | none => rfl
  | some started =>
    rw [foldl_serve_some hslot] at h
    cases h

/-- A slot that has been filled was filled by the first startup that the analyzer accepts. -/
theorem foldl_serve_none (hempty : memory.slot = none) {calls : List Call}
    (h : (calls.foldl analyzer.serve memory).slot = some started) :
    ∃ earlier args later, calls = earlier ++ .startup args :: later ∧
      (earlier.foldl analyzer.serve memory).slot = none ∧
      analyzer.starts (earlier.foldl analyzer.serve memory).asked args.config ∧
      started = { config := args.config, received := later.filterMap Call.handed? } := by
  induction calls generalizing memory with
  | nil =>
    rw [List.foldl_nil, hempty] at h
    cases h
  | cons call calls ih =>
    rw [List.foldl_cons] at h
    cases hserved : (analyzer.serve memory call).slot with
    | none =>
      obtain ⟨earlier, args, later, rfl, hnone, hstarts, hstarted⟩ := ih hserved h
      exact ⟨call :: earlier, args, later, rfl, hnone, hstarts, hstarted⟩
    | some first =>
      obtain ⟨args, rfl, hstarts, rfl⟩ := startup_of_serve_some hempty hserved
      rw [foldl_serve_some hserved] at h
      exact ⟨[], args, calls, rfl, hempty, hstarts, (Option.some.inj h).symm⟩

end Analyzer

namespace Host

variable {setup : Setup} {run : Runner} {host : Host} {name unit : String} {analyzer : Analyzer}
  {depth : Nat}

/-! ## The process -/

theorem requests_analyzerEnding (memory : Memory) (call : Call) :
    (analyzerEnding analyzer memory call).requests = call.passes memory.slot := by
  cases call with
  | startup args => exact Analyzer.startupEntry_requests args
  | block exchange => exact Analyzer.blockEntry_requests exchange
  | ingest trace => exact Analyzer.ingestEntry_requests trace

theorem Setup.engine_of_linked (hsupplied : setup.supplied name = .linked unit) :
    setup.engine name = .native { code := .linked unit } := by
  rw [Setup.engine, hsupplied]
  rfl

/-- A call to an entry point around an analyzer: how it is answered, what it asks of the analyzer,
and what it makes of the memory. -/
theorem report_entry (host : Host) (hrun : Tracks setup run)
    (hsupplied : setup.supplied name = .linked unit)
    (hprogram : setup.linked unit = .analyzer analyzer) (call : Call) :
    let ran := (report setup run (.entry name call)).run host
    let memory := (host.linked unit).toMemory
    ran.1.result = Step.relays (analyzerEnding analyzer memory call).answer (.entry name call) ∧
      ran.1.requests (.linked unit) = call.passes memory.slot ∧
      (ran.2.linked unit).toMemory = analyzer.serve memory call := by
  intro ran memory
  let visit := entryVisit setup host.beginning (.linked unit) call
  have hvisit : (Step.entry name call).directVisit? setup host.beginning = some visit := by
    simp only [Step.directVisit?, setup.engine_of_linked hsupplied]
    rfl
  have hperform := perform_directVisit setup run hvisit
  have hprogram : setup.program (.linked unit) = .analyzer analyzer := hprogram
  obtain ⟨hplain, hnotes, hstatics⟩ :=
    entryVisit_of_analyzer hprogram (alive_linked host.beginning unit) call
  have hcallbacks := hplain.callbacks_eq run
  refine ⟨?_, ?_, ?_⟩
  · rw [show ran.1.result = _ from congrArg Prod.fst hperform]
    exact congrArg (Step.relays · (.entry name call)) (hplain.answer_eq run)
  · have houtput : ran.1.output = (visit.ending run).output :=
      congrArg (fun performed => performed.2.output) hperform
    rw [ran.1.requests_eq, houtput, Visit.requestsIn_ending hrun (directVisit_from hvisit),
      hplain.contact_eq run, hnotes, filterMap_noteObservation, ← requests_analyzerEnding]
    rfl
  · have hlinked : ran.2.linked unit = (visit.ending run).statics (.linked unit) :=
      congrArg (fun performed => performed.2.linked unit) hperform
    rw [hlinked, visit.ending_of_callbacks hcallbacks, statics_observe, hstatics]
    exact (analyzerEnding_memory analyzer memory call).trans
      (congrArg (List.foldl analyzer.accept memory) (requests_analyzerEnding memory call))

/-- The process after some calls to the entry points of an engine. -/
def afterEntries (setup : Setup) (depth : Nat) (name : String) (host : Host) (calls : List Call) :
    Host :=
  ((runSteps setup depth (calls.map (.entry name))).run host).2

/-- The report of a call to an entry point that is made after others. -/
def nextEntry (setup : Setup) (depth : Nat) (name : String) (host : Host) (calls : List Call)
    (call : Call) : Report :=
  ((report setup (calledBack setup depth) (.entry name call)).run
    (afterEntries setup depth name host calls)).1

/-- The calls make of the memory what each of them does in turn. -/
theorem memory_afterEntries (hsupplied : setup.supplied name = .linked unit)
    (hprogram : setup.linked unit = .analyzer analyzer) (calls : List Call) :
    ((afterEntries setup depth name host calls).linked unit).toMemory =
      calls.foldl analyzer.serve (host.linked unit).toMemory := by
  induction calls generalizing host with
  | nil => rfl
  | cons call calls ih =>
    let first := (report setup (calledBack setup depth) (.entry name call)).run host
    obtain ⟨-, -, hmemory⟩ :=
      report_entry host (calledBack_tracks depth) hsupplied hprogram call
    have hafter : afterEntries setup depth name host (call :: calls) =
        afterEntries setup depth name first.2 calls := by
      unfold afterEntries
      rw [runSteps_eq_reportAll, List.map_cons, reportAll_cons_run]
    rw [hafter, ih, List.foldl_cons]
    exact congrArg (fun memory => calls.foldl analyzer.serve memory) hmemory

/-! ## The life of the slot -/

/-- What any number of calls to the entry points around an analyzer does, and how each of them is
answered. -/
structure StartsOnce (setup : Setup) (depth : Nat) (name unit : String) (analyzer : Analyzer)
    (host : Host) : Prop where
  /-- The instance in the slot is never replaced: every later decision and every later trace reaches
  it once, whatever else is called and whatever panics. -/
  kept : ∀ calls later started,
    ((afterEntries setup depth name host calls).linked unit).slot = some started →
      ((afterEntries setup depth name host (calls ++ later)).linked unit).slot = some { started with
        received := started.received ++ later.filterMap Call.handed? }
  /-- A startup answers one if the slot is filled when it returns, and zero otherwise. -/
  startup : ∀ calls args, (nextEntry setup depth name host calls (.startup args)).result = .number
    (if ((afterEntries setup depth name host (calls ++ [.startup args])).linked unit).slot.isSome
      then 1 else 0)
  /-- The analyzer is asked for an instance by startups that find the slot empty, and otherwise gets
  what is handed to the instance that is there. -/
  passes : ∀ calls call, (nextEntry setup depth name host calls call).requests (.linked unit) =
    call.passes ((afterEntries setup depth name host calls).linked unit).slot
  /-- The instance is made of the arguments of the first startup that has answered one. -/
  first : ∀ calls started,
    ((afterEntries setup depth name host calls).linked unit).slot = some started →
      ∃ earlier args later, calls = earlier ++ .startup args :: later ∧
        (nextEntry setup depth name host earlier (.startup args)).result = .number 1 ∧
        (∀ sooner others args', earlier = sooner ++ .startup args' :: others →
          (nextEntry setup depth name host sooner (.startup args')).result = .number 0) ∧
        started = { config := args.config, received := later.filterMap Call.handed? }
  /-- Without an instance nothing is blocked. -/
  idle : ∀ calls exchange,
    ((afterEntries setup depth name host calls).linked unit).slot = none →
      (nextEntry setup depth name host calls (.block exchange)).result = .number 0
  /-- With one, what is blocked is what the instance wants to block, if it does not panic. -/
  decides : ∀ calls exchange started,
    ((afterEntries setup depth name host calls).linked unit).slot = some started →
      (nextEntry setup depth name host calls (.block exchange)).result = .number
        (if analyzer.block ((afterEntries setup depth name host calls).linked unit).asked started
            exchange.read = .returned true then 1 else 0)

/-- **Whatever is called how often and in whatever order, the analyzer is started once at most.** -/
theorem startsOnce {setup : Setup} {name unit : String} {analyzer : Analyzer} {host : Host}
    (hsupplied : setup.supplied name = .linked unit)
    (hprogram : setup.linked unit = .analyzer analyzer) (hempty : (host.linked unit).slot = none)
    (depth : Nat) : StartsOnce setup depth name unit analyzer host := by
  obtain ⟨memory, hmemory⟩ : ∃ memory, (host.linked unit).toMemory = memory := ⟨_, rfl⟩
  replace hempty : memory.slot = none := hmemory ▸ hempty
  have hafter : ∀ calls, ((afterEntries setup depth name host calls).linked unit).toMemory =
      calls.foldl analyzer.serve memory := fun calls => by
    rw [memory_afterEntries hsupplied hprogram, hmemory]
  have hnext : ∀ calls call, (nextEntry setup depth name host calls call).result =
        Step.relays (analyzerEnding analyzer (calls.foldl analyzer.serve memory) call).answer
          (.entry name call) ∧
      (nextEntry setup depth name host calls call).requests (.linked unit) =
        call.passes (calls.foldl analyzer.serve memory).slot :=
    fun calls call => by
      obtain ⟨hresult, hrequests, -⟩ := report_entry (afterEntries setup depth name host calls)
        (calledBack_tracks depth) hsupplied hprogram call
      rw [hafter] at hresult hrequests
      exact ⟨hresult, hrequests⟩
  have hstartup : ∀ calls args, (nextEntry setup depth name host calls (.startup args)).result =
      .number (if ((calls ++ [Call.startup args]).foldl analyzer.serve memory).slot.isSome
        then 1 else 0) := by
    intro calls args
    rw [(hnext calls _).1, List.foldl_append, List.foldl_cons, List.foldl_nil,
      Analyzer.serve_startup]
    change Result.number (analyzer.startupEntry _ args).answer.toNat = _
    rw [Analyzer.startupEntry_answer, apply_ite UInt8.toNat]
    rfl
  refine ⟨fun calls later started h => ?_, fun calls args => ?_, fun calls call => ?_,
    fun calls started h => ?_, fun calls exchange h => ?_, fun calls exchange started h => ?_⟩
  · rw [hafter] at h ⊢
    rw [List.foldl_append]
    exact Analyzer.foldl_serve_some h later
  · rw [hafter, hstartup]
  · rw [hafter, (hnext calls call).2]
  · rw [hafter] at h
    obtain ⟨earlier, args, later, rfl, hnone, hstarts, rfl⟩ := Analyzer.foldl_serve_none hempty h
    refine ⟨earlier, args, later, rfl, ?_, ?_, rfl⟩
    · rw [hstartup, List.foldl_append, List.foldl_cons, List.foldl_nil,
        Analyzer.serve_none_startup hnone hstarts]
      rfl
    · rintro sooner others args' rfl
      rw [List.append_cons] at hnone
      rw [hstartup, Analyzer.foldl_serve_none_of_append hnone]
      rfl
  · rw [hafter] at h
    rw [(hnext calls _).1]
    change Result.number (analyzer.blockEntry _ exchange).answer.toNat = _
    rw [Analyzer.blockEntry, h]
    rfl
  · rw [hafter] at h ⊢
    rw [(hnext calls _).1]
    change Result.number (analyzer.blockEntry _ exchange).answer.toNat = _
    rw [Analyzer.blockEntry_answer h, apply_ite UInt8.toNat, Analyzer.decides]
    simp only [decide_eq_true_eq]
    rfl

/-- Every name stands for entry points around the recorder, which panics on a key and on a path. -/
def recording : Setup where
  supplied _ := .linked "unit"
  linked _ := .analyzer Scenario.recorder

/-- Startup arguments with a key that makes the recorder panic. -/
def panickingArguments : Startup.RawArguments :=
  { apiKey := some [112, 97, 110, 105, 99] }

/-- A request on whose path the recorder panics. -/
def panickingRequest : Traffic.Record.Request :=
  { url := { path := some [47, 112, 97, 110, 105, 99] } }

/-- A startup that panics, a decision without an instance, a startup without a key, and one that
succeeds. -/
def hesitantCalls : List Call :=
  [.startup panickingArguments, .block {}, .startup {}, .startup keyArguments.raw]

/-- Two calls in which the instance panics. -/
def panickingCalls : List Call :=
  [.block { request := panickingRequest }, .ingest { request := panickingRequest }]

/-- After all these calls, the instance is the one that the fourth startup has made, and it has got
the calls in which it panicked; a startup without a key now answers one and asks for nothing. -/
theorem panickingCalls_startOnce :
    recording.supplied "engine" = .linked "unit" ∧
      recording.linked "unit" = .analyzer Scenario.recorder ∧
      (oneLibrary.linked "unit").slot = none ∧
      (∃ started, ((afterEntries recording 0 "engine" oneLibrary
          (hesitantCalls ++ panickingCalls)).linked "unit").slot = some started ∧
        started.config = keyArguments.raw.config ∧ started.received.length = 2) ∧
      (nextEntry recording 0 "engine" oneLibrary (hesitantCalls ++ panickingCalls)
        (.startup {})).result = .number 1 ∧
      (nextEntry recording 0 "engine" oneLibrary (hesitantCalls ++ panickingCalls)
        (.startup {})).requests (.linked "unit") = [] ∧
      (nextEntry recording 0 "engine" oneLibrary (hesitantCalls ++ panickingCalls)
        (.block { request := panickingRequest })).result = .number 0 := by
  have hempty : (oneLibrary.linked "unit").slot = none := rfl
  have honce : StartsOnce recording 0 "engine" "unit" Scenario.recorder oneLibrary :=
    startsOnce rfl rfl hempty 0
  have hslot : ((afterEntries recording 0 "engine" oneLibrary hesitantCalls).linked "unit").slot =
      some { config := keyArguments.raw.config } := by
    decide +kernel
  have hafter := honce.kept hesitantCalls panickingCalls _ hslot
  refine ⟨rfl, rfl, hempty, ⟨_, hafter, rfl, rfl⟩, ?_, ?_, ?_⟩
  · rw [honce.startup, List.append_assoc, honce.kept hesitantCalls _ _ hslot]
    rfl
  · rw [honce.passes, hafter]
    rfl
  · rw [honce.decides _ _ _ hafter]
    decide +kernel

end Host
end FailOpen
