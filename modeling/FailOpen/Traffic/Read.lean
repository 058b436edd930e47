import FailOpen.Traffic.Basic
import FailOpen.Traffic.Record

/-!
# Reading traffic records

What an engine makes of the records it receives.  A null string reads as the empty one, ill-formed
bytes are replaced, and an array reads as empty when it is null or its length is zero, whatever the
other of the two says.
-/

namespace FailOpen
namespace Traffic
namespace Record

def Pair.read (pair : Pair) : Traffic.Pair where
  name := readText pair.name
  value := readText pair.value

def Pairs.read (pairs : Pairs) : List Traffic.Pair :=
  match pairs.items with
  | none => []
  | some items => (items.take pairs.length).map Pair.read

def Url.read (url : Url) : Traffic.Url where
  host := readText url.host
  path := readText url.path
  parameters := url.parameters.read

def Request.read (request : Request) : Traffic.Request where
  url := request.url.read
  headers := request.headers.read
  body := readText request.body
  method := readText request.method

def Response.read (response : Response) : Traffic.Response where
  status := response.status
  headers := response.headers.read
  body := readText response.body

def Origin.read (origin : Origin) : Traffic.Origin where
  environment := readText origin.environment
  incoming := origin.incoming
  source := readText origin.source
  sourcePort := origin.sourcePort
  destination := readText origin.destination
  destinationPort := origin.destinationPort
  observer := readText origin.observer

def Exchange.read (exchange : Exchange) : Traffic.Exchange where
  request := exchange.request.read
  origin := exchange.origin.read

def Trace.read (trace : Trace) : Traffic.Trace where
  request := trace.request.read
  response := trace.response.read
  origin := trace.origin.read

theorem Trace.read_exchange (trace : Trace) : trace.exchange.read = trace.read.exchange :=
  rfl

end Record
end Traffic
end FailOpen
