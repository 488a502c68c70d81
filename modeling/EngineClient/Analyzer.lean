import EngineClient.Analyzer.Job
import EngineClient.Connection
import EngineClient.Host
import EngineClient.Session.Stream

/-! Analyzer jobs are run: an observable is looked up, and a report tells what was found. -/

namespace EngineClient.Analyzer

/-- What a job leads to. -/
inductive Report where
  /-- The events in which the observable occurs. -/
  | found (events : List Json.Fields)
  /-- The job, and why nothing was looked up. -/
  | failed (input : Json) (reason : String)

namespace Report

/-- Whether the job was done. -/
def isSuccess : Report → Bool
  | .found _ => true
  | .failed _ _ => false

/-- How grave a number of hits is. -/
def level (hits : Nat) : String :=
  if 0 < hits then "suspicious" else "safe"

/-- The number of hits as a labelled verdict. -/
def summary (hits : Nat) : Json :=
  let taxonomy := Json.object
    [("level", .string (level hits)), ("namespace", .string "Tenzir"),
      ("predicate", .string "Hits"), ("value", .string (toString hits))]
  .object [("taxonomies", .array [taxonomy])]

/-- The report as a document. -/
def toJson : Report → Json
  | .found events => .object
    [("artifacts", .array []), ("full", .object [("values", .array (events.map .object))]),
      ("operations", .array []), ("success", .bool true), ("summary", summary events.length)]
  | .failed input reason => .object
    [("errorMessage", .string reason), ("input", input), ("success", .bool false)]

end Report

/-- How many events a job wants where it does not say. -/
def defaultMaxEvents : Nat := 30

/-- The text of an observable, if it has one. -/
def observableText : Json → String
  | .string text => Text.trim text
  | .number value => value.render
  | _ => ""

/-- The failure of a type that cannot be looked up. -/
def unsupportedType (dataType : String) : Error :=
  { kind := .usage
    message := some ("unsupported dataType `" ++ dataType
      ++ "`; expected ip, subnet, hash, or domain") }

/-- The failure of a job without an observable. -/
def missingObservable : Error :=
  { kind := .usage, message := some "job carries no observable data" }

/-- The failure of a probe. -/
def unreachable (client : Client) : Error :=
  { kind := .unreachable, message := some "Could not connect to Tenzir Server Endpoint"
    input := some client.endpoint.display }

/-- What a job asks for, and whom. -/
structure Lookup where
  /-- The client of the node to ask. -/
  client : Client
  /-- The events wanted. -/
  request : ExportRequest

/-- What a job asks for, known before any engine is started. -/
def lookup (connection : Connection) (job : Job) : Except Error Lookup :=
  match ObservableType.ofHint? job.dataType with
  | none => .error (unsupportedType job.dataType)
  | some type => do
    let observable := observableText job.data
    if observable.isEmpty then throw missingObservable
    let client ← connection.clientFor (job.settings.endpoint.getD connection.endpoint)
    let query := (Predicate.forObservable (some type) observable).toQuery
    return ⟨client, { query, maxEvents := some (job.settings.maxEvents.getD defaultMaxEvents) }⟩

/-- What became of a job. -/
structure Outcome where
  /-- The report, or none where the export never ends. -/
  report : Option Report
  /-- The command lines that the host was asked to start, in order. -/
  commands : List Invocation

/-- The report on what an export brought. -/
def reportOf (document : Json) (items : List (Except Error Record)) : Report :=
  match items.mapM fun item => item.map Record.data with
  | .ok events => .found events
  | .error error => .failed document error.display

variable [Platform]

/-- Asks the node, unless it does not answer a probe. -/
def ask (host : Host) (document : Json) (lookup : Lookup) : Outcome :=
  let status := lookup.client.statusInvocation
  if (lookup.client.probe (host status)).result then
    let command := lookup.client.exportInvocation lookup.request
    let session := lookup.client.exportEvents lookup.request (host command)
    ⟨(session.takeItems none).map fun taken => reportOf document taken.items, [status, command]⟩
  else ⟨some (.failed document (unreachable lookup.client).display), [status]⟩

/-- Runs the job that a text holds. -/
def run (host : Host) (connection : Connection) (text : String) : Outcome :=
  match Json.parse (Utf8.encode text) with
  | .error fault => ⟨some (.failed (.string text) ("invalid job: " ++ fault.message)), []⟩
  | .ok document =>
    match Job.ofJson document with
    | .error fault => ⟨some (.failed document ("invalid job: " ++ fault.message)), []⟩
    | .ok job =>
      match lookup connection job with
      | .error error => ⟨some (.failed document error.display), []⟩
      | .ok lookup => ask host document lookup

end EngineClient.Analyzer
