import FailOpen.CString

/-!
# Traffic records

The records in which a host describes its traffic, as they reach an engine: nullable strings and
counted arrays.  The bridge passes them on untouched; only an engine reads them, by the rules of
`FailOpen.Traffic.Read`.
-/

namespace FailOpen
namespace Traffic
namespace Record

/-- A header or a query parameter. -/
structure Pair where
  name : Option Buffer := none
  value : Option Buffer := none
  deriving DecidableEq, Inhabited

/-- A counted array.  The host promises that a non-null array has at least `length` elements. -/
structure Pairs where
  items : Option (List Pair) := none
  length : Nat := 0
  deriving DecidableEq, Inhabited

structure Url where
  host : Option Buffer := none
  path : Option Buffer := none
  parameters : Pairs := {}
  deriving DecidableEq, Inhabited

structure Request where
  url : Url := {}
  headers : Pairs := {}
  body : Option Buffer := none
  method : Option Buffer := none
  deriving DecidableEq, Inhabited

structure Response where
  status : UInt16 := 0
  headers : Pairs := {}
  body : Option Buffer := none
  deriving DecidableEq, Inhabited

/-- Where traffic came from and who observed it. -/
structure Origin where
  environment : Option Buffer := none
  incoming : Bool := false
  source : Option Buffer := none
  sourcePort : UInt16 := 0
  destination : Option Buffer := none
  destinationPort : UInt16 := 0
  observer : Option Buffer := none
  deriving DecidableEq, Inhabited

/-- An exchange that waits for a block decision; it has no response yet. -/
structure Exchange where
  request : Request := {}
  origin : Origin := {}
  deriving DecidableEq, Inhabited

/-- A completed exchange, handed over for analysis. -/
structure Trace where
  request : Request := {}
  response : Response := {}
  origin : Origin := {}
  deriving DecidableEq, Inhabited

/-- The exchange that a trace completes. -/
def Trace.exchange (trace : Trace) : Exchange where
  request := trace.request
  origin := trace.origin

end Record
end Traffic
end FailOpen
