import FailOpen.Proofs.Text.CString
import FailOpen.Traffic.Read
import Mathlib.Data.List.Forall2

/-!
# Records that represent traffic

A host can describe the same traffic in many ways: an empty string may be a null pointer, anything
may stand behind the NUL that ends a string, an empty list may have any pointer or any length.
`Represents` says of each kind of record when it describes given traffic.  Whatever way a host has
chosen, an engine reads exactly the traffic that was meant.

* `Trace.Represents.read` and its companions are the way back, one for each kind of record.
* `Trace.represents_record` is the way there: `record` writes down any traffic without NULs.
* `Trace.read_eq_default_iff` says which records describe nothing at all.
-/

namespace FailOpen

open Text

/-- A string pointer that stands for a text: null for the empty text, or the bytes of the text up to
the first NUL, and then anything. -/
inductive PointsTo : Option Buffer → String → Prop
  | null : PointsTo none ""
  | buffer {buffer : Buffer} {s : String} (h : buffer.visible = Utf8.encode s) :
      PointsTo (some buffer) s

namespace PointsTo

variable {pointer : Option Buffer} {s : String}

theorem read (h : PointsTo pointer s) : readText pointer = s := by
  cases h with
  | null => rfl
  | buffer h => exact readText_of_visible h

theorem nul_notMem (h : PointsTo pointer s) : '\x00' ∉ s.toList := by
  cases h with
  | null => exact List.not_mem_nil
  | @buffer buffer _ h =>
    rw [← Utf8.zero_mem_encode, ← h]
    exact buffer.zero_notMem_visible

theorem encode (h : '\x00' ∉ s.toList) : PointsTo (some (Utf8.encode s)) s :=
  .buffer (Buffer.visible_of_notMem (Utf8.zero_mem_encode.not.mpr h))

/-- Whatever stands behind the terminator does not matter. -/
theorem append {buffer : Buffer} (h : PointsTo (some buffer) s) (hzero : 0 ∉ buffer)
    (rest : List UInt8) : PointsTo (some (buffer ++ 0 :: rest)) s := by
  cases h with
  | buffer h =>
    rw [Buffer.visible_of_notMem hzero] at h
    exact .buffer ((Buffer.visible_append_zero hzero rest).trans h)

end PointsTo

namespace Traffic

/-! ## The texts in traffic -/

def Pair.texts (pair : Pair) : List String :=
  [pair.name, pair.value]

def Url.texts (url : Url) : List String :=
  url.host :: url.path :: url.parameters.flatMap Pair.texts

def Request.texts (request : Request) : List String :=
  request.body :: request.method :: request.url.texts ++ request.headers.flatMap Pair.texts

def Response.texts (response : Response) : List String :=
  response.body :: response.headers.flatMap Pair.texts

def Origin.texts (origin : Origin) : List String :=
  [origin.environment, origin.source, origin.destination, origin.observer]

def Trace.texts (trace : Trace) : List String :=
  trace.request.texts ++ trace.response.texts ++ trace.origin.texts

/-- No text has a NUL. -/
def NulFree (texts : List String) : Prop :=
  ∀ s ∈ texts, '\x00' ∉ s.toList

@[simp] theorem nulFree_nil : NulFree [] := by
  simp [NulFree]

@[simp] theorem nulFree_cons {s : String} {texts : List String} :
    NulFree (s :: texts) ↔ '\x00' ∉ s.toList ∧ NulFree texts := by
  simp [NulFree]

@[simp] theorem nulFree_append {texts others : List String} :
    NulFree (texts ++ others) ↔ NulFree texts ∧ NulFree others := by
  simp only [NulFree, List.mem_append]
  exact ⟨fun h => ⟨fun s hs => h s (.inl hs), fun s hs => h s (.inr hs)⟩,
    fun h s hs => hs.elim (h.1 s) (h.2 s)⟩

theorem nulFree_flatMap {pairs : List Pair} :
    NulFree (pairs.flatMap Pair.texts) ↔ ∀ pair ∈ pairs, NulFree pair.texts := by
  simp only [NulFree, List.mem_flatMap]
  exact ⟨fun h pair hpair s hs => h s ⟨pair, hpair, hs⟩,
    fun h s ⟨pair, hpair, hs⟩ => h pair hpair s hs⟩

namespace Record

/-! ## Representing -/

structure Pair.Represents (record : Pair) (pair : Traffic.Pair) : Prop where
  name : PointsTo record.name pair.name
  value : PointsTo record.value pair.value

/-- An array with its length that stands for a list, element by element.  What is behind the counted
elements does not matter. -/
inductive Pairs.Represents : Pairs → List Traffic.Pair → Prop
  | null (length : Nat) : Represents ⟨none, length⟩ []
  | empty (items : Option (List Pair)) : Represents ⟨items, 0⟩ []
  | counted {items rest : List Pair} {pairs : List Traffic.Pair}
      (h : List.Forall₂ Pair.Represents items pairs) :
      Represents ⟨some (items ++ rest), items.length⟩ pairs

structure Url.Represents (record : Url) (url : Traffic.Url) : Prop where
  host : PointsTo record.host url.host
  path : PointsTo record.path url.path
  parameters : record.parameters.Represents url.parameters

structure Request.Represents (record : Request) (request : Traffic.Request) : Prop where
  url : record.url.Represents request.url
  headers : record.headers.Represents request.headers
  body : PointsTo record.body request.body
  method : PointsTo record.method request.method

structure Response.Represents (record : Response) (response : Traffic.Response) : Prop where
  status : record.status = response.status
  headers : record.headers.Represents response.headers
  body : PointsTo record.body response.body

structure Origin.Represents (record : Origin) (origin : Traffic.Origin) : Prop where
  environment : PointsTo record.environment origin.environment
  incoming : record.incoming = origin.incoming
  source : PointsTo record.source origin.source
  sourcePort : record.sourcePort = origin.sourcePort
  destination : PointsTo record.destination origin.destination
  destinationPort : record.destinationPort = origin.destinationPort
  observer : PointsTo record.observer origin.observer

structure Trace.Represents (record : Trace) (trace : Traffic.Trace) : Prop where
  request : record.request.Represents trace.request
  response : record.response.Represents trace.response
  origin : record.origin.Represents trace.origin

/-! ## Reading what is represented -/

theorem Pair.Represents.read {record : Pair} {pair : Traffic.Pair} (h : record.Represents pair) :
    record.read = pair := by
  rw [Pair.read, h.name.read, h.value.read]

theorem Pairs.Represents.read {record : Pairs} {pairs : List Traffic.Pair}
    (h : record.Represents pairs) : record.read = pairs := by
  cases h with
  | null length => rfl
  | empty items => cases items <;> rfl
  | @counted items rest pairs h =>
    simp only [Pairs.read, List.take_left]
    induction h with
    | nil => rfl
    | cons hpair hpairs ih => rw [List.map_cons, hpair.read, ih]

theorem Url.Represents.read {record : Url} {url : Traffic.Url} (h : record.Represents url) :
    record.read = url := by
  rw [Url.read, h.host.read, h.path.read, h.parameters.read]

theorem Request.Represents.read {record : Request} {request : Traffic.Request}
    (h : record.Represents request) : record.read = request := by
  rw [Request.read, h.url.read, h.headers.read, h.body.read, h.method.read]

theorem Response.Represents.read {record : Response} {response : Traffic.Response}
    (h : record.Represents response) : record.read = response := by
  rw [Response.read, h.status, h.headers.read, h.body.read]

theorem Origin.Represents.read {record : Origin} {origin : Traffic.Origin}
    (h : record.Represents origin) : record.read = origin := by
  rw [Origin.read, h.environment.read, h.incoming, h.source.read, h.sourcePort, h.destination.read,
    h.destinationPort, h.observer.read]

theorem Trace.Represents.read {record : Trace} {trace : Traffic.Trace}
    (h : record.Represents trace) : record.read = trace := by
  rw [Trace.read, h.request.read, h.response.read, h.origin.read]

/-! ## What can be represented -/

theorem Pair.Represents.nulFree {record : Pair} {pair : Traffic.Pair}
    (h : record.Represents pair) : NulFree pair.texts := by
  simp [Traffic.Pair.texts, h.name.nul_notMem, h.value.nul_notMem]

theorem Pairs.Represents.nulFree {record : Pairs} {pairs : List Traffic.Pair}
    (h : record.Represents pairs) : NulFree (pairs.flatMap Traffic.Pair.texts) := by
  rw [nulFree_flatMap]
  cases h with
  | null length => simp
  | empty items => simp
  | counted h =>
    induction h with
    | nil => simp
    | cons hpair hpairs ih => exact List.forall_mem_cons.mpr ⟨hpair.nulFree, ih⟩

theorem Url.Represents.nulFree {record : Url} {url : Traffic.Url} (h : record.Represents url) :
    NulFree url.texts := by
  simp [Traffic.Url.texts, h.host.nul_notMem, h.path.nul_notMem,
    h.parameters.nulFree]

theorem Request.Represents.nulFree {record : Request} {request : Traffic.Request}
    (h : record.Represents request) : NulFree request.texts := by
  simp [Traffic.Request.texts, h.url.nulFree, h.headers.nulFree,
    h.body.nul_notMem, h.method.nul_notMem]

theorem Response.Represents.nulFree {record : Response} {response : Traffic.Response}
    (h : record.Represents response) : NulFree response.texts := by
  simp [Traffic.Response.texts, h.headers.nulFree, h.body.nul_notMem]

theorem Origin.Represents.nulFree {record : Origin} {origin : Traffic.Origin}
    (h : record.Represents origin) : NulFree origin.texts := by
  simp [Traffic.Origin.texts, h.environment.nul_notMem, h.source.nul_notMem,
    h.destination.nul_notMem, h.observer.nul_notMem]

theorem Trace.Represents.nulFree {record : Trace} {trace : Traffic.Trace}
    (h : record.Represents trace) : NulFree trace.texts := by
  simp [Traffic.Trace.texts, h.request.nulFree, h.response.nulFree, h.origin.nulFree]

end Record

/-! ### A record of given traffic -/

def Pair.record (pair : Pair) : Record.Pair where
  name := some (Utf8.encode pair.name)
  value := some (Utf8.encode pair.value)

def recordPairs (pairs : List Pair) : Record.Pairs where
  items := some (pairs.map Pair.record)
  length := pairs.length

def Url.record (url : Url) : Record.Url where
  host := some (Utf8.encode url.host)
  path := some (Utf8.encode url.path)
  parameters := recordPairs url.parameters

def Request.record (request : Request) : Record.Request where
  url := request.url.record
  headers := recordPairs request.headers
  body := some (Utf8.encode request.body)
  method := some (Utf8.encode request.method)

def Response.record (response : Response) : Record.Response where
  status := response.status
  headers := recordPairs response.headers
  body := some (Utf8.encode response.body)

def Origin.record (origin : Origin) : Record.Origin where
  environment := some (Utf8.encode origin.environment)
  incoming := origin.incoming
  source := some (Utf8.encode origin.source)
  sourcePort := origin.sourcePort
  destination := some (Utf8.encode origin.destination)
  destinationPort := origin.destinationPort
  observer := some (Utf8.encode origin.observer)

/-- A record in which no pointer is null and no array is longer than its length. -/
def Trace.record (trace : Trace) : Record.Trace where
  request := trace.request.record
  response := trace.response.record
  origin := trace.origin.record

theorem Pair.represents_record {pair : Pair} (h : NulFree pair.texts) :
    pair.record.Represents pair := by
  simp only [texts, nulFree_cons] at h
  exact ⟨.encode h.1, .encode h.2.1⟩

theorem represents_recordPairs {pairs : List Pair} (h : NulFree (pairs.flatMap Pair.texts)) :
    (recordPairs pairs).Represents pairs := by
  rw [nulFree_flatMap] at h
  have hitems : List.Forall₂ Record.Pair.Represents (pairs.map Pair.record) pairs := by
    rw [List.forall₂_map_left_iff, List.forall₂_same]
    exact fun pair hpair => Pair.represents_record (h pair hpair)
  have hcounted : Record.Pairs.Represents ⟨some (pairs.map Pair.record ++ []), _⟩ pairs :=
    .counted hitems
  rwa [List.append_nil, List.length_map] at hcounted

theorem Url.represents_record {url : Url} (h : NulFree url.texts) :
    url.record.Represents url := by
  simp only [texts, nulFree_cons] at h
  exact ⟨.encode h.1, .encode h.2.1, represents_recordPairs h.2.2⟩

theorem Request.represents_record {request : Request} (h : NulFree request.texts) :
    request.record.Represents request := by
  simp only [texts, List.cons_append, nulFree_cons, nulFree_append] at h
  obtain ⟨hbody, hmethod, hurl, hheaders⟩ := h
  exact ⟨Url.represents_record hurl, represents_recordPairs hheaders, .encode hbody,
    .encode hmethod⟩

theorem Response.represents_record {response : Response} (h : NulFree response.texts) :
    response.record.Represents response := by
  simp only [texts, nulFree_cons] at h
  exact ⟨rfl, represents_recordPairs h.2, .encode h.1⟩

theorem Origin.represents_record {origin : Origin} (h : NulFree origin.texts) :
    origin.record.Represents origin := by
  simp only [texts, nulFree_cons] at h
  obtain ⟨henvironment, hsource, hdestination, hobserver, -⟩ := h
  exact ⟨.encode henvironment, rfl, .encode hsource, rfl, .encode hdestination, rfl,
    .encode hobserver⟩

theorem Trace.represents_record {trace : Trace} (h : NulFree trace.texts) :
    trace.record.Represents trace := by
  simp only [texts, nulFree_append] at h
  obtain ⟨⟨hrequest, hresponse⟩, horigin⟩ := h
  exact ⟨Request.represents_record hrequest, Response.represents_record hresponse,
    Origin.represents_record horigin⟩

namespace Record

/-! ## Records that say nothing -/

/-- The pointer is null or leads to no bytes. -/
def IsVoid (pointer : Option Buffer) : Prop :=
  ∀ buffer, pointer = some buffer → buffer.visible = []

theorem isVoid_none : IsVoid none :=
  fun _ h => (nomatch h)

theorem isVoid_some {buffer : Buffer} (h : buffer.visible = []) : IsVoid (some buffer) := by
  rintro _ ⟨⟩
  exact h

namespace Pairs

/-- The array is null or has length zero. -/
def IsVoid (pairs : Pairs) : Prop :=
  pairs.items = none ∨ pairs.length = 0

/-- A host keeps its promise: an array that is not null has as many elements as its length says. -/
def IsSound (pairs : Pairs) : Prop :=
  ∀ items, pairs.items = some items → pairs.length ≤ items.length

theorem isSound_none (length : Nat) : IsSound ⟨none, length⟩ :=
  fun _ h => (nomatch h)

theorem isSound_some {items : List Pair} {length : Nat} (h : length ≤ items.length) :
    IsSound ⟨some items, length⟩ := by
  rintro _ ⟨⟩
  exact h

theorem read_eq_nil_iff {pairs : Pairs} (hsound : pairs.IsSound) :
    pairs.read = [] ↔ pairs.IsVoid := by
  obtain ⟨items, length⟩ := pairs
  cases items with
  | none => simp [read, IsVoid]
  | some items =>
    have hlength : length ≤ items.length := hsound items rfl
    simp only [read, IsVoid, List.map_eq_nil_iff, List.take_eq_nil_iff, reduceCtorEq, false_or]
    constructor
    · rintro (hzero | rfl)
      · exact hzero
      · exact Nat.le_zero.mp hlength
    · exact .inl

end Pairs

structure Request.IsVoid (request : Request) : Prop where
  host : Record.IsVoid request.url.host
  path : Record.IsVoid request.url.path
  parameters : request.url.parameters.IsVoid
  headers : request.headers.IsVoid
  body : Record.IsVoid request.body
  method : Record.IsVoid request.method

structure Response.IsVoid (response : Response) : Prop where
  status : response.status = 0
  headers : response.headers.IsVoid
  body : Record.IsVoid response.body

structure Origin.IsVoid (origin : Origin) : Prop where
  environment : Record.IsVoid origin.environment
  incoming : origin.incoming = false
  source : Record.IsVoid origin.source
  sourcePort : origin.sourcePort = 0
  destination : Record.IsVoid origin.destination
  destinationPort : origin.destinationPort = 0
  observer : Record.IsVoid origin.observer

structure Exchange.IsVoid (exchange : Exchange) : Prop where
  request : exchange.request.IsVoid
  origin : exchange.origin.IsVoid

structure Trace.IsVoid (trace : Trace) : Prop where
  request : trace.request.IsVoid
  response : trace.response.IsVoid
  origin : trace.origin.IsVoid

structure Request.IsSound (request : Request) : Prop where
  parameters : request.url.parameters.IsSound
  headers : request.headers.IsSound

theorem readText_eq_empty_iff_isVoid {pointer : Option Buffer} :
    readText pointer = "" ↔ Record.IsVoid pointer :=
  readText_eq_empty_iff

theorem Request.read_eq_default_iff {request : Request} (hsound : request.IsSound) :
    request.read = {} ↔ request.IsVoid := by
  simp only [Request.read, Url.read, Traffic.Request.mk.injEq, Traffic.Url.mk.injEq,
    readText_eq_empty_iff_isVoid, Pairs.read_eq_nil_iff hsound.parameters,
    Pairs.read_eq_nil_iff hsound.headers]
  constructor
  · rintro ⟨⟨hhost, hpath, hparameters⟩, hheaders, hbody, hmethod⟩
    exact ⟨hhost, hpath, hparameters, hheaders, hbody, hmethod⟩
  · rintro ⟨hhost, hpath, hparameters, hheaders, hbody, hmethod⟩
    exact ⟨⟨hhost, hpath, hparameters⟩, hheaders, hbody, hmethod⟩

theorem Response.read_eq_default_iff {response : Response} (hsound : response.headers.IsSound) :
    response.read = {} ↔ response.IsVoid := by
  simp only [Response.read, Traffic.Response.mk.injEq, readText_eq_empty_iff_isVoid,
    Pairs.read_eq_nil_iff hsound]
  constructor
  · rintro ⟨hstatus, hheaders, hbody⟩
    exact ⟨hstatus, hheaders, hbody⟩
  · rintro ⟨hstatus, hheaders, hbody⟩
    exact ⟨hstatus, hheaders, hbody⟩

theorem Origin.read_eq_default_iff {origin : Origin} : origin.read = {} ↔ origin.IsVoid := by
  simp only [Origin.read, Traffic.Origin.mk.injEq, readText_eq_empty_iff_isVoid]
  constructor
  · rintro ⟨henvironment, hincoming, hsource, hport, hdestination, hport', hobserver⟩
    exact ⟨henvironment, hincoming, hsource, hport, hdestination, hport', hobserver⟩
  · rintro ⟨henvironment, hincoming, hsource, hport, hdestination, hport', hobserver⟩
    exact ⟨henvironment, hincoming, hsource, hport, hdestination, hport', hobserver⟩

theorem Exchange.read_eq_default_iff {exchange : Exchange} (hsound : exchange.request.IsSound) :
    exchange.read = {} ↔ exchange.IsVoid := by
  rw [Exchange.read, Traffic.Exchange.mk.injEq, Request.read_eq_default_iff hsound,
    Origin.read_eq_default_iff]
  exact ⟨fun h => ⟨h.1, h.2⟩, fun h => ⟨h.1, h.2⟩⟩

theorem Trace.read_eq_default_iff {trace : Trace} (hrequest : trace.request.IsSound)
    (hresponse : trace.response.headers.IsSound) : trace.read = {} ↔ trace.IsVoid := by
  rw [Trace.read, Traffic.Trace.mk.injEq, Request.read_eq_default_iff hrequest,
    Response.read_eq_default_iff hresponse, Origin.read_eq_default_iff]
  exact ⟨fun h => ⟨h.1, h.2.1, h.2.2⟩, fun h => ⟨h.1, h.2, h.3⟩⟩

end Record

/-! ## There and back -/

/-- Everything that holds of the records that describe given traffic. -/
structure RoundTrip (trace : Trace) : Prop where
  /-- There are such records unless a text has a NUL. -/
  represented : (∃ record : Record.Trace, record.Represents trace) ↔ NulFree trace.texts
  /-- The traffic is read from each of them. -/
  read : ∀ record : Record.Trace, record.Represents trace → record.read = trace
  /-- Its request and its origin are read from the record that a block decision is made of. -/
  exchange : ∀ record : Record.Trace, record.Represents trace →
    record.exchange.read = ⟨trace.request, trace.origin⟩
  /-- So it does not matter which record the host has chosen. -/
  alike : ∀ record other : Record.Trace, record.Represents trace → other.Represents trace →
    record.read = other.read ∧ record.exchange.read = other.exchange.read

/-- **Records say what was meant.**  All traffic without NULs makes the round trip through any
record that describes it, and a record says nothing just if nothing is in it. -/
theorem roundTrip_and_void :
    (∀ trace : Trace, RoundTrip trace) ∧
      (∀ record : Record.Trace, record.request.IsSound → record.response.headers.IsSound →
        (record.read = {} ↔ record.IsVoid)) ∧
      ∀ record : Record.Exchange, record.request.IsSound → (record.read = {} ↔ record.IsVoid) := by
  refine ⟨fun trace => ?_, fun _ => Record.Trace.read_eq_default_iff,
    fun _ => Record.Exchange.read_eq_default_iff⟩
  have hexchange : ∀ record : Record.Trace, record.Represents trace →
      record.exchange.read = ⟨trace.request, trace.origin⟩ := by
    intro record h
    rw [Record.Trace.read_exchange, h.read]
    rfl
  exact {
    represented := ⟨fun ⟨record, h⟩ => h.nulFree, fun h => ⟨_, Trace.represents_record h⟩⟩
    read := fun record h => h.read
    exchange := hexchange
    alike := fun record other h hother =>
      ⟨by rw [h.read, hother.read], by rw [hexchange record h, hexchange other hother]⟩ }

/-- Traffic to a host with a letter beyond ASCII, with one header whose value is empty. -/
def plainTrace : Trace where
  request := { url := { host := "bücher.example" }, headers := [⟨"a", ""⟩] }
  response := { status := 200 }

/-- A record of it with leftovers: bytes behind a terminator, an element behind the counted ones, a
length without an array and an array without a length. -/
def leftoverRecord : Record.Trace where
  request :=
    { url :=
        { host := some (Utf8.encode "bücher.example" ++ 0 :: [255, 7])
          path := some [0, 1]
          parameters := ⟨none, 3⟩ }
      headers := ⟨some ([⟨some [97], none⟩] ++ [⟨some [98], some [99]⟩]), 1⟩ }
  response := { status := 200, headers := ⟨some [⟨some [98], some [99]⟩], 0⟩ }

/-- A record with nothing but leftovers. -/
def emptyRecord : Record.Trace where
  request := { url := { path := some [0, 1], parameters := ⟨none, 3⟩ } }
  response := { headers := ⟨some [⟨some [98], some [99]⟩], 0⟩ }

theorem leftoverRecord_read :
    leftoverRecord.read = plainTrace ∧
      leftoverRecord.exchange.read = ⟨plainTrace.request, {}⟩ ∧
      emptyRecord.read = {} ∧ leftoverRecord.exchange.read ≠ {} := by
  have hhost : PointsTo leftoverRecord.request.url.host plainTrace.request.url.host :=
    (PointsTo.encode (by decide)).append (by decide) [255, 7]
  have hheader : Record.Pair.Represents ⟨some [97], none⟩ ⟨"a", ""⟩ := ⟨.buffer (by decide), .null⟩
  have hrepresents : leftoverRecord.Represents plainTrace :=
    ⟨⟨⟨hhost, .buffer (by decide), .null 3⟩, .counted (.cons hheader .nil), .null, .null⟩,
      ⟨rfl, .empty _, .null⟩, ⟨.null, rfl, .null, rfl, .null, rfl, .null⟩⟩
  have hsound : leftoverRecord.request.IsSound :=
    ⟨Record.Pairs.isSound_none 3, Record.Pairs.isSound_some (by decide)⟩
  have hvoid : emptyRecord.IsVoid :=
    open Record in
    { request := ⟨isVoid_none, isVoid_some rfl, .inl rfl, .inl rfl, isVoid_none, isVoid_none⟩
      response := ⟨rfl, .inr rfl, isVoid_none⟩
      origin := ⟨isVoid_none, rfl, isVoid_none, rfl, isVoid_none, rfl, isVoid_none⟩ }
  obtain ⟨hround, htrace, hexchange⟩ := roundTrip_and_void
  refine ⟨(hround plainTrace).read _ hrepresents, (hround plainTrace).exchange _ hrepresents,
    (htrace emptyRecord ⟨Record.Pairs.isSound_none 3, Record.Pairs.isSound_none 0⟩
      (Record.Pairs.isSound_some (by decide))).mpr hvoid, ?_⟩
  intro hnothing
  rcases ((hexchange leftoverRecord.exchange hsound).mp hnothing).request.headers with h | h
  · cases h
  · cases h

end Traffic
end FailOpen
