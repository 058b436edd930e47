/-!
# Traffic

Exchanges and traces as an engine works with them: every string is text, every list is owned.
-/

namespace FailOpen
namespace Traffic

/-- A header or a query parameter. -/
structure Pair where
  name : String
  value : String
  deriving DecidableEq, Inhabited, Repr

structure Url where
  host : String := ""
  path : String := ""
  parameters : List Pair := []
  deriving DecidableEq, Inhabited, Repr

structure Request where
  url : Url := {}
  headers : List Pair := []
  body : String := ""
  method : String := ""
  deriving DecidableEq, Inhabited, Repr

structure Response where
  status : UInt16 := 0
  headers : List Pair := []
  body : String := ""
  deriving DecidableEq, Inhabited, Repr

/-- Where traffic came from and who observed it. -/
structure Origin where
  environment : String := ""
  incoming : Bool := false
  source : String := ""
  sourcePort : UInt16 := 0
  destination : String := ""
  destinationPort : UInt16 := 0
  observer : String := ""
  deriving DecidableEq, Inhabited, Repr

/-- The request side of an exchange that waits for a block decision. -/
structure Exchange where
  request : Request := {}
  origin : Origin := {}
  deriving DecidableEq, Inhabited, Repr

/-- A completed exchange. -/
structure Trace where
  request : Request := {}
  response : Response := {}
  origin : Origin := {}
  deriving DecidableEq, Inhabited, Repr

/-- The exchange that a trace completes. -/
def Trace.exchange (trace : Trace) : Exchange where
  request := trace.request
  origin := trace.origin

/-- Whether nothing is known about an exchange. -/
def Exchange.isEmpty (exchange : Exchange) : Bool :=
  exchange = {}

/-- Whether nothing is known about a trace. -/
def Trace.isEmpty (trace : Trace) : Bool :=
  trace = {}

end Traffic
end FailOpen
