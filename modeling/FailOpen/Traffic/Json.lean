import FailOpen.Json.Value
import FailOpen.Traffic.Basic

/-!
# Traffic as JSON

The JSON form in which an engine passes traces on.  Members stand in the order of the fields; those
of the origin are spelled in camel case.  An exchange is a trace without its response.
-/

namespace FailOpen
namespace Traffic

open FailOpen.Json (Value)

def Pair.json (pair : Pair) : Value :=
  .object [("name", .text pair.name), ("value", .text pair.value)]

def jsonPairs (pairs : List Pair) : Value :=
  .array (pairs.map Pair.json)

def Url.json (url : Url) : Value :=
  .object
    [("host", .text url.host), ("path", .text url.path), ("parameters", jsonPairs url.parameters)]

def Request.json (request : Request) : Value :=
  .object
    [("url", request.url.json), ("headers", jsonPairs request.headers),
      ("body", .text request.body), ("method", .text request.method)]

def Response.json (response : Response) : Value :=
  .object
    [("status", .number response.status.toNat), ("headers", jsonPairs response.headers),
      ("body", .text response.body)]

def Origin.json (origin : Origin) : Value :=
  .object
    [("environment", .text origin.environment), ("incoming", .flag origin.incoming),
      ("source", .text origin.source), ("sourcePort", .number origin.sourcePort.toNat),
      ("destination", .text origin.destination),
      ("destinationPort", .number origin.destinationPort.toNat),
      ("metloSource", .text origin.observer)]

def Exchange.json (exchange : Exchange) : Value :=
  .object [("request", exchange.request.json), ("meta", exchange.origin.json)]

def Trace.json (trace : Trace) : Value :=
  .object
    [("request", trace.request.json), ("response", trace.response.json),
      ("meta", trace.origin.json)]

/-- The compact JSON text of an exchange. -/
def Exchange.jsonText (exchange : Exchange) : String :=
  exchange.json.compact

/-- The compact JSON text of a trace. -/
def Trace.jsonText (trace : Trace) : String :=
  trace.json.compact

end Traffic
end FailOpen
