import FailOpen.Proofs.Json.Reading
import FailOpen.Traffic.Json

/-!
# The JSON text of traffic is lossless

Traffic is read back from the document that its JSON text spells, by the names of the members and
not by their order.  `Lossless` says that the text of anything is one document and nothing but that
document, on a single line, from which exactly the same is read; so no two traces have the same
text, whatever is in their strings.  The text of an exchange is that of its trace without the
response.

Documents that were written by somebody else are read as well, but nothing is said about them here.
-/

namespace FailOpen
namespace Traffic

open FailOpen.Json (Document Tree Value Visible)

/-! ## Reading traffic from a document -/

def Pair.ofTree? (tree : Tree) : Option Pair := do
  let name ← (← tree.member? "name").text?
  let value ← (← tree.member? "value").text?
  return { name, value }

def pairsOfTree? (tree : Tree) : Option (List Pair) := do
  (← tree.items?).mapM Pair.ofTree?

def Url.ofTree? (tree : Tree) : Option Url := do
  let host ← (← tree.member? "host").text?
  let path ← (← tree.member? "path").text?
  let parameters ← pairsOfTree? (← tree.member? "parameters")
  return { host, path, parameters }

def Request.ofTree? (tree : Tree) : Option Request := do
  let url ← Url.ofTree? (← tree.member? "url")
  let headers ← pairsOfTree? (← tree.member? "headers")
  let body ← (← tree.member? "body").text?
  let method ← (← tree.member? "method").text?
  return { url, headers, body, method }

def Response.ofTree? (tree : Tree) : Option Response := do
  let status ← (← tree.member? "status").word?
  let headers ← pairsOfTree? (← tree.member? "headers")
  let body ← (← tree.member? "body").text?
  return { status, headers, body }

def Origin.ofTree? (tree : Tree) : Option Origin := do
  let environment ← (← tree.member? "environment").text?
  let incoming ← (← tree.member? "incoming").flag?
  let source ← (← tree.member? "source").text?
  let sourcePort ← (← tree.member? "sourcePort").word?
  let destination ← (← tree.member? "destination").text?
  let destinationPort ← (← tree.member? "destinationPort").word?
  let observer ← (← tree.member? "metloSource").text?
  return { environment, incoming, source, sourcePort, destination, destinationPort, observer }

def Exchange.ofTree? (tree : Tree) : Option Exchange := do
  let request ← Request.ofTree? (← tree.member? "request")
  let origin ← Origin.ofTree? (← tree.member? "meta")
  return { request, origin }

def Trace.ofTree? (tree : Tree) : Option Trace := do
  let request ← Request.ofTree? (← tree.member? "request")
  let response ← Response.ofTree? (← tree.member? "response")
  let origin ← Origin.ofTree? (← tree.member? "meta")
  return { request, response, origin }

/-! ## What is written is read -/

theorem Pair.ofTree?_json (pair : Pair) : ofTree? pair.json.tree = some pair := by
  unfold ofTree? json
  rw [Value.member?_tree _ "name" rfl, Value.member?_tree _ "value" rfl]
  simp

theorem pairsOfTree?_json (pairs : List Pair) :
    pairsOfTree? (jsonPairs pairs).tree = some pairs := by
  unfold pairsOfTree? jsonPairs
  rw [Value.items?_tree, List.map_map]
  show (pairs.map fun pair => pair.json.tree).mapM Pair.ofTree? = some pairs
  induction pairs with
  | nil => rfl
  | cons pair rest ih =>
    rw [List.map_cons, List.mapM_cons, ih, Pair.ofTree?_json]
    rfl

theorem Url.ofTree?_json (url : Url) : ofTree? url.json.tree = some url := by
  unfold ofTree? json
  rw [Value.member?_tree _ "host" rfl, Value.member?_tree _ "path" rfl,
    Value.member?_tree _ "parameters" rfl]
  simp [pairsOfTree?_json]

theorem Request.ofTree?_json (request : Request) : ofTree? request.json.tree = some request := by
  unfold ofTree? json
  rw [Value.member?_tree _ "url" rfl, Value.member?_tree _ "headers" rfl,
    Value.member?_tree _ "body" rfl, Value.member?_tree _ "method" rfl]
  simp [Url.ofTree?_json, pairsOfTree?_json]

theorem Response.ofTree?_json (response : Response) :
    ofTree? response.json.tree = some response := by
  unfold ofTree? json
  rw [Value.member?_tree _ "status" rfl, Value.member?_tree _ "headers" rfl,
    Value.member?_tree _ "body" rfl]
  simp [pairsOfTree?_json]

theorem Origin.ofTree?_json (origin : Origin) : ofTree? origin.json.tree = some origin := by
  unfold ofTree? json
  rw [Value.member?_tree _ "environment" rfl, Value.member?_tree _ "incoming" rfl,
    Value.member?_tree _ "source" rfl, Value.member?_tree _ "sourcePort" rfl,
    Value.member?_tree _ "destination" rfl, Value.member?_tree _ "destinationPort" rfl,
    Value.member?_tree _ "metloSource" rfl]
  simp

theorem Exchange.ofTree?_json (exchange : Exchange) :
    ofTree? exchange.json.tree = some exchange := by
  unfold ofTree? json
  rw [Value.member?_tree _ "request" rfl, Value.member?_tree _ "meta" rfl]
  simp [Request.ofTree?_json, Origin.ofTree?_json]

theorem Trace.ofTree?_json (trace : Trace) : ofTree? trace.json.tree = some trace := by
  unfold ofTree? json
  rw [Value.member?_tree _ "request" rfl, Value.member?_tree _ "response" rfl,
    Value.member?_tree _ "meta" rfl]
  simp [Request.ofTree?_json, Response.ofTree?_json, Origin.ofTree?_json]

/-! ## Lossless texts -/

/-- Everything that holds of a way to write things down which loses nothing. -/
structure Lossless {α : Type} (text : α → String) (ofTree? : Tree → Option α) : Prop where
  /-- The text is one document and no other, and from this document the same is read. -/
  read : ∀ a, ∃ tree, Document (text a) tree ∧ (∀ other, Document (text a) other → other = tree) ∧
    ofTree? tree = some a
  /-- It is a single line: no character in it is below U+0020. -/
  line : ∀ a, ∀ c ∈ (text a).toList, 0x20 ≤ c.toNat
  /-- So different things have different texts. -/
  injective : ∀ a b, text a = text b → a = b

/-- What is written as a value from which it can be read is written without loss. -/
theorem lossless_of_value {α : Type} {json : α → Value} {ofTree? : Tree → Option α}
    (h : ∀ a, ofTree? (json a).tree = some a) : Lossless (fun a => (json a).compact) ofTree? where
  read a := ⟨_, (json a).document_compact, fun _ hother => hother.unique (json a).document_compact,
    h a⟩
  line a c hc := by
    rw [Value.compact, String.toList_ofList] at hc
    exact (json a).visible_chars c hc
  injective a b htext := by
    have hdocument : Document (json a).compact (json b).tree := by
      rw [htext]
      exact (json b).document_compact
    have htree := (json a).document_compact.unique hdocument
    have hread := h a
    rw [htree, h b] at hread
    exact (Option.some.inj hread).symm

/-- The member that an exchange does not have yet, with the comma behind it. -/
def Response.memberText (response : Response) : String :=
  "\"response\":" ++ response.json.compact ++ ","

/-- Writing an exchange is writing a trace and leaving its response out. -/
theorem Exchange.jsonText_eq (exchange : Exchange) (response : Response) :
    ∃ before after : String,
      Trace.jsonText ⟨exchange.request, response, exchange.origin⟩ =
        before ++ response.memberText ++ after ∧
      exchange.jsonText = before ++ after := by
  refine ⟨.ofList ('\x7b' :: Json.escapeText "request" ++ ':' :: exchange.request.json.chars ++
      [',']),
    .ofList (Json.escapeText "meta" ++ ':' :: exchange.origin.json.chars ++ ['\x7d']), ?_, ?_⟩
  · rw [← String.toList_inj]
    simp [Trace.jsonText, Trace.json, Response.memberText, Value.compact, Value.chars,
      Value.memberChars, Json.escapeText, Json.escapeChar]
  · rw [← String.toList_inj]
    simp [Exchange.jsonText, Exchange.json, Value.compact, Value.chars, Value.memberChars]

/-- **The JSON text of traffic is lossless.** -/
theorem jsonText_lossless :
    Lossless Trace.jsonText Trace.ofTree? ∧ Lossless Exchange.jsonText Exchange.ofTree? ∧
      ∀ (exchange : Exchange) (response : Response), ∃ before after : String,
        Trace.jsonText ⟨exchange.request, response, exchange.origin⟩ =
          before ++ response.memberText ++ after ∧
        exchange.jsonText = before ++ after :=
  ⟨lossless_of_value Trace.ofTree?_json, lossless_of_value Exchange.ofTree?_json,
    Exchange.jsonText_eq⟩

/-- Traffic whose strings look like the text around them, with a NUL and a letter beyond the basic
plane. -/
def trickyTrace : Trace where
  request := { body := "\",\"method\":\"\\\x00🔑", headers := [⟨"", "\n"⟩] }
  response := { status := 65535 }

theorem trickyTrace_read :
    ∃ tree, Document trickyTrace.jsonText tree ∧ Trace.ofTree? tree = some trickyTrace ∧
      ∀ other : Trace, other.jsonText = trickyTrace.jsonText → other = trickyTrace := by
  obtain ⟨htrace, -, -⟩ := jsonText_lossless
  obtain ⟨tree, hdocument, -, hread⟩ := htrace.read trickyTrace
  exact ⟨tree, hdocument, hread, fun other => htrace.injective other trickyTrace⟩

end Traffic
end FailOpen
