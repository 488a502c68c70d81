import EngineClient.Endpoint
import EngineClient.Invocation
import EngineClient.Query

/-! Requests to an engine, and the command lines that make them. -/

namespace EngineClient

/-- Which events an export covers. -/
inductive ExportMode where
  /-- The events already stored; the export ends by itself. -/
  | historical
  /-- The events still to come; the export does not end by itself. -/
  | continuous
  /-- The events already stored, then those still to come. -/
  | unified
deriving DecidableEq, Repr

namespace ExportMode

/-- Whether an export in the mode ends by itself. -/
def isFinite : ExportMode → Bool
  | .historical => true
  | _ => false

/-- The name of the mode. -/
def name : ExportMode → String
  | .historical => "historical"
  | .continuous => "continuous"
  | .unified => "unified"

end ExportMode

/-- How exported events are written. -/
inductive Encoding where
  /-- One JSON object a line. -/
  | json
  /-- Arrow streams one after another. -/
  | arrow
deriving DecidableEq, Repr

/-- The name of the encoding. -/
def Encoding.name : Encoding → String
  | .json => "json"
  | .arrow => "arrow"

/-- What an export is asked for. -/
structure ExportRequest where
  /-- The events wanted. -/
  query : Query := .all
  /-- Which events are covered. -/
  mode : ExportMode := .historical
  /-- How many events are wanted at most. -/
  maxEvents : Option Nat := none
  /-- How the events are written. -/
  encoding : Encoding := .json
deriving DecidableEq, Repr

/-- The command lines of one engine program. -/
structure Dialect where
  /-- Asks a node for its status. -/
  status : Endpoint → Invocation
  /-- Counts the events that match. -/
  count : Endpoint → Query → Invocation
  /-- Exports the events that match. -/
  exportEvents : Endpoint → ExportRequest → Invocation

namespace Dialect

/-- The control program that is meant where none is given. -/
def defaultProgram : String := "tenzir-ctl"

/-- A command to the node at an endpoint. -/
def base (program : String) (endpoint : Endpoint) : Invocation :=
  { program : Invocation }.option "endpoint" endpoint.display

/-- Appends a query expression, which is left out where it is empty. -/
def withQuery (invocation : Invocation) (query : Query) : Invocation :=
  if query.isMatchAll then invocation else invocation.arg query.expression

/-- Appends the mode, which is left out where the export ends by itself. -/
def withMode (invocation : Invocation) : ExportMode → Invocation
  | .historical => invocation
  | .continuous => invocation.flag "continuous"
  | .unified => invocation.flag "unified"

/-- Appends the greatest number of events, if there is one. -/
def withMaxEvents (invocation : Invocation) : Option Nat → Invocation
  | some maxEvents => invocation.option "max_events" (toString maxEvents)
  | none => invocation

/-- The command lines of the control program. -/
def control (program : String) : Dialect where
  status endpoint := (base program endpoint).arg "status"
  count endpoint query := withQuery ((base program endpoint).arg "count") query
  exportEvents endpoint request :=
    let invocation := withMode ((base program endpoint).arg "export") request.mode
    let invocation := withMaxEvents invocation request.maxEvents
    withQuery (invocation.arg request.encoding.name) request.query

end Dialect

end EngineClient
