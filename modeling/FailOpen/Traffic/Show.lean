import FailOpen.Text.Quoted
import FailOpen.Text.Shape
import FailOpen.Traffic.Basic

/-!
# Traffic shown for debugging

One-line texts of exchanges and traces, with every string quoted.
-/

namespace FailOpen
namespace Traffic

open Text

def Pair.shown (pair : Pair) : String :=
  Shape.record "KeyValueData" [("name", quote pair.name), ("value", quote pair.value)]

def shownPairs (pairs : List Pair) : String :=
  Shape.list (pairs.map Pair.shown)

def Url.shown (url : Url) : String :=
  Shape.record "UrlData"
    [("host", quote url.host), ("path", quote url.path),
      ("parameters", shownPairs url.parameters)]

def Request.shown (request : Request) : String :=
  Shape.record "RequestData"
    [("url", request.url.shown), ("headers", shownPairs request.headers),
      ("body", quote request.body), ("method", quote request.method)]

def Response.shown (response : Response) : String :=
  Shape.record "ResponseData"
    [("status", Shape.number response.status.toNat),
      ("headers", shownPairs response.headers), ("body", quote response.body)]

def Origin.shown (origin : Origin) : String :=
  Shape.record "MetaData"
    [("environment", quote origin.environment), ("incoming", Shape.flag origin.incoming),
      ("source", quote origin.source), ("source_port", Shape.number origin.sourcePort.toNat),
      ("destination", quote origin.destination),
      ("destination_port", Shape.number origin.destinationPort.toNat),
      ("metlo_source", quote origin.observer)]

def Exchange.shown (exchange : Exchange) : String :=
  Shape.record "ExchangeData"
    [("request", exchange.request.shown), ("meta", exchange.origin.shown)]

def Trace.shown (trace : Trace) : String :=
  Shape.record "TraceData"
    [("request", trace.request.shown), ("response", trace.response.shown),
      ("meta", trace.origin.shown)]

end Traffic
end FailOpen
