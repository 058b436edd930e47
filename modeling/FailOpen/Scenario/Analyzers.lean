import FailOpen.Analyzer.Basic

/-!
# Two small analyzers

The analyzers with which scenarios exercise entry points.  The fixture is the one that the stock
libraries contain.  The recorder is linked in; it also shows what happens when an analyzer panics.
-/

namespace FailOpen
namespace Scenario

open Analyzer (Instance)

/-- Needs an API key, blocks what is incoming, and takes every trace. -/
def fixture : Analyzer where
  start _ config :=
    .returned (if config.apiKey = "" then .error "api key is required" else .ok ())
  block _ _ exchange := .returned exchange.origin.incoming
  ingest _ _ _ := .returned ()

/-- The path on which the recorder panics. -/
def panicPath : String := "/panic"

/-- The header that makes the recorder block, in lower case. -/
def blockHeader : String := "x-block"

/-- Whether a header has the given lower-case name; the case of ASCII letters does not matter. -/
def hasName (name : String) (header : Traffic.Pair) : Bool :=
  header.name.toList.map Char.toLower = name.toList

/-- Refuses or panics on certain API keys, panics on one path, and blocks on one header. -/
def recorder : Analyzer where
  start _ config :=
    if config.apiKey = "" then .returned (.error "missing api key")
    else if config.apiKey = "chain" then .returned (.error "outer context")
    else if config.apiKey = "panic" then .panicked
    else .returned (.ok ())
  block _ _ exchange :=
    if exchange.request.url.path = panicPath then .panicked
    else .returned (exchange.request.headers.any (hasName blockHeader))
  ingest _ _ trace :=
    if trace.request.url.path = panicPath then .panicked else .returned ()

end Scenario
end FailOpen
