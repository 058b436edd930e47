import FailOpen.Analyzer.EntryPoints

/-!
# The memory of an analyzer

The three entry points around an analyzer work on one memory: what has been asked, and the slot for
an instance.  What they do to it is decided by the requests that they pass on to the analyzer, and by
nothing else: `accept` is the effect of a single request, and each entry point leaves the memory that
its requests make of the memory it has found.

* Everything that was asked is remembered (`foldl_accept_asked`).
* An empty slot is filled by a start that the analyzer accepts, and by nothing else.
* A filled slot stays filled with the same instance, which only receives.
* For a `Forgetful` analyzer nothing but the slot matters.
-/

namespace FailOpen
namespace Analyzer

/-- Whether the analyzer accepts a configuration, after all that it was asked. -/
def starts (analyzer : Analyzer) (asked : List Request) (config : Startup.Config) : Bool :=
  match analyzer.start asked config with
  | .returned (.ok ()) => true
  | _ => false

/-- Whether the analyzer decides to block.  A panic blocks nothing. -/
def decides (analyzer : Analyzer) (asked : List Request) (started : Instance)
    (exchange : Traffic.Exchange) : Bool :=
  analyzer.block asked started exchange = .returned true

/-- The slot after the analyzer has got a request. -/
def fill (analyzer : Analyzer) (asked : List Request) :
    Option Instance → Request → Option Instance
  | none, .start config => if analyzer.starts asked config then some { config } else none
  | none, _ => none
  | some started, .start _ => some started
  | some started, request => some (started.receive request)

/-- The memory after the analyzer has got a request. -/
def accept (analyzer : Analyzer) (memory : Memory) (request : Request) : Memory where
  asked := memory.asked ++ [request]
  slot := analyzer.fill memory.asked memory.slot request

/-- The request in a note. -/
def Note.request? : Note → Option Request
  | .reached request => some request
  | .logged _ => none

/-- The requests that an entry point has passed on. -/
def Ending.requests {α : Type} (ending : Ending α) : List Request :=
  ending.notes.filterMap Note.request?

/-- Whether a startup leaves the slot filled. -/
def fills (analyzer : Analyzer) (memory : Memory) (config : Startup.Config) : Bool :=
  memory.slot.isSome || analyzer.starts memory.asked config

/-- The requests that a startup passes on: none if the slot is filled. -/
def demanded (slot : Option Instance) (config : Startup.Config) : List Request :=
  if slot.isSome then [] else [.start config]

variable {analyzer : Analyzer} {memory : Memory} {started : Instance}

/-! ## One entry point -/

theorem startupEntry_answer (args : Startup.RawArguments) :
    (analyzer.startupEntry memory args).answer =
      if analyzer.fills memory args.config then 1 else 0 := by
  unfold startupEntry fills starts
  cases hslot : memory.slot with
  | some started => rfl
  | none => rcases hstart : analyzer.start memory.asked args.config with (_ | _) | _ <;> simp [hstart]

theorem startupEntry_requests (args : Startup.RawArguments) :
    (analyzer.startupEntry memory args).requests = demanded memory.slot args.config := by
  unfold startupEntry Ending.requests demanded
  cases hslot : memory.slot with
  | some started => rfl
  | none =>
    rcases hstart : analyzer.start memory.asked args.config with (_ | _) | _ <;>
      simp [hstart, Note.request?]

theorem startupEntry_memory (args : Startup.RawArguments) :
    (analyzer.startupEntry memory args).toMemory =
      (demanded memory.slot args.config).foldl analyzer.accept memory := by
  unfold startupEntry demanded
  cases hslot : memory.slot with
  | some started => rfl
  | none =>
    change _ = analyzer.accept memory (.start args.config)
    unfold accept fill starts
    rcases hstart : analyzer.start memory.asked args.config with (_ | _) | _ <;>
      simp [hstart, hslot]

theorem blockEntry_answer (hslot : memory.slot = some started)
    (exchange : Traffic.Record.Exchange) :
    (analyzer.blockEntry memory exchange).answer =
      if analyzer.decides memory.asked started exchange.read then 1 else 0 := by
  unfold blockEntry decides
  cases hblock : analyzer.block memory.asked started exchange.read <;> simp [hslot, hblock]

theorem blockEntry_requests (exchange : Traffic.Record.Exchange) :
    (analyzer.blockEntry memory exchange).requests =
      if memory.slot.isSome then [.block exchange.read] else [] := by
  unfold blockEntry
  cases memory.slot <;> rfl

theorem blockEntry_memory (exchange : Traffic.Record.Exchange) :
    (analyzer.blockEntry memory exchange).toMemory =
      (analyzer.blockEntry memory exchange).requests.foldl analyzer.accept memory := by
  rw [blockEntry_requests]
  unfold blockEntry
  cases hslot : memory.slot with
  | none => rfl
  | some started => simp [accept, fill, hslot]

theorem ingestEntry_requests (trace : Traffic.Record.Trace) :
    (analyzer.ingestEntry memory trace).requests =
      if memory.slot.isSome then [.ingest trace.read] else [] := by
  unfold ingestEntry Ending.requests
  cases hslot : memory.slot with
  | none => rfl
  | some started =>
    cases hingest : analyzer.ingest memory.asked started trace.read <;>
      simp [hingest, Note.request?]

theorem ingestEntry_memory (trace : Traffic.Record.Trace) :
    (analyzer.ingestEntry memory trace).toMemory =
      (analyzer.ingestEntry memory trace).requests.foldl analyzer.accept memory := by
  rw [ingestEntry_requests]
  unfold ingestEntry
  cases hslot : memory.slot with
  | none => rfl
  | some started => simp [accept, fill, hslot]

/-! ## Analyzers that keep nothing beside the slot -/

/-- What the analyzer answers does not depend on what it was asked before, but through the instance
that it has started. -/
structure Forgetful (analyzer : Analyzer) : Prop where
  start : ∀ asked asked', analyzer.start asked = analyzer.start asked'
  block : ∀ asked asked', analyzer.block asked = analyzer.block asked'
  ingest : ∀ asked asked', analyzer.ingest asked = analyzer.ingest asked'

section

variable {other : Memory}

/-- Two memories with the same slot are as good as each other. -/
theorem Forgetful.startupEntry (h : analyzer.Forgetful) (hslot : memory.slot = other.slot)
    (args : Startup.RawArguments) :
    (analyzer.startupEntry memory args).answer = (analyzer.startupEntry other args).answer ∧
      (analyzer.startupEntry memory args).notes = (analyzer.startupEntry other args).notes ∧
      (analyzer.startupEntry memory args).slot = (analyzer.startupEntry other args).slot := by
  unfold Analyzer.startupEntry
  rw [h.start memory.asked other.asked, hslot]
  cases hother : other.slot with
  | some started => simp [hslot, hother]
  | none =>
    rcases hstart : analyzer.start other.asked args.config with (_ | _) | _ <;>
      simp [hstart]

theorem Forgetful.blockEntry (h : analyzer.Forgetful) (hslot : memory.slot = other.slot)
    (exchange : Traffic.Record.Exchange) :
    (analyzer.blockEntry memory exchange).answer = (analyzer.blockEntry other exchange).answer ∧
      (analyzer.blockEntry memory exchange).notes = (analyzer.blockEntry other exchange).notes ∧
      (analyzer.blockEntry memory exchange).slot = (analyzer.blockEntry other exchange).slot := by
  unfold Analyzer.blockEntry
  rw [h.block memory.asked other.asked, hslot]
  cases hother : other.slot <;> simp [hslot, hother]

theorem Forgetful.ingestEntry (h : analyzer.Forgetful) (hslot : memory.slot = other.slot)
    (trace : Traffic.Record.Trace) :
    (analyzer.ingestEntry memory trace).notes = (analyzer.ingestEntry other trace).notes ∧
      (analyzer.ingestEntry memory trace).slot = (analyzer.ingestEntry other trace).slot := by
  unfold Analyzer.ingestEntry
  rw [h.ingest memory.asked other.asked, hslot]
  cases hother : other.slot <;> simp [hslot, hother]

end

/-! ## Any number of requests -/

/-- A filled slot stays filled. -/
theorem isSome_accept (h : memory.slot.isSome) (request : Request) :
    (analyzer.accept memory request).slot.isSome := by
  obtain ⟨started, hslot⟩ := Option.isSome_iff_exists.mp h
  unfold accept
  cases request <;> simp [fill, hslot]

theorem isSome_foldl_accept (h : memory.slot.isSome) (requests : List Request) :
    (requests.foldl analyzer.accept memory).slot.isSome := by
  induction requests generalizing memory with
  | nil => exact h
  | cons request requests ih => exact ih (isSome_accept h request)

/-- A startup leaves the slot filled exactly if it succeeds. -/
theorem isSome_foldl_demanded (config : Startup.Config) :
    ((demanded memory.slot config).foldl analyzer.accept memory).slot.isSome =
      analyzer.fills memory config := by
  unfold fills demanded
  cases hslot : memory.slot with
  | some started => simp [hslot]
  | none =>
    cases hstarts : analyzer.starts memory.asked config <;> simp [accept, fill, hslot, hstarts]

/-- Everything that was asked is remembered. -/
theorem foldl_accept_asked (requests : List Request) :
    (requests.foldl analyzer.accept memory).asked = memory.asked ++ requests := by
  induction requests generalizing memory with
  | nil => exact (List.append_nil _).symm
  | cons request requests ih =>
    rw [List.foldl_cons, ih, accept, List.append_assoc, List.singleton_append]

/-- Whether the request hands something to an instance. -/
def Request.isHandedOver : Request → Bool
  | .start _ => false
  | _ => true

/-- The instance in a filled slot is never replaced: it has received what was handed over. -/
theorem foldl_accept_some (hslot : memory.slot = some started) (requests : List Request) :
    (requests.foldl analyzer.accept memory).slot =
      some { started with
        received := started.received ++ requests.filter Request.isHandedOver } := by
  induction requests generalizing memory started with
  | nil => rw [List.filter_nil, List.append_nil]; exact hslot
  | cons request requests ih =>
    have haccepted : (analyzer.accept memory request).slot =
        some { started with
          received := started.received ++ [request].filter Request.isHandedOver } := by
      unfold accept
      rw [hslot]
      cases request with
      | start config => simp [fill, Request.isHandedOver]
      | _ => rfl
    rw [List.foldl_cons, ih haccepted, List.append_assoc, ← List.filter_append,
      List.singleton_append]

end Analyzer
end FailOpen
