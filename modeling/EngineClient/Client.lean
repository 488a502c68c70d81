import EngineClient.Dialect
import EngineClient.Engine.Run
import EngineClient.Json.Parser
import EngineClient.Session
import EngineClient.Text.Unsigned

/-! Requests to a node: is it there, what is its status, how many events match, and which ones. -/

namespace EngineClient

/-- What is needed to make requests to a node; times are in milliseconds. -/
structure Client where
  /-- Where the node listens. -/
  endpoint : Endpoint
  /-- The engine program. -/
  program : String := Dialect.defaultProgram
  /-- How long a status request may take. -/
  probeTimeout : Nat := 5000
  /-- How long a count may take. -/
  countTimeout : Nat := 30000
  /-- How long an engine that is told to end may go on. -/
  grace : Nat := 3000
  /-- The command lines of the engine program. -/
  dialect : Dialect := Dialect.control program

namespace Client

/-- What a request brings, with the calls made on the engine in order. -/
structure Answer (α : Type) where
  /-- What the request brings. -/
  result : α
  /-- The calls made on the engine. -/
  calls : List EngineCall

/-- The command line of a status request. -/
def statusInvocation (client : Client) : Invocation :=
  client.dialect.status client.endpoint

/-- The command line of a count. -/
def countInvocation (client : Client) (query : Query) : Invocation :=
  client.dialect.count client.endpoint query

/-- The command line of an export. -/
def exportInvocation (client : Client) (request : ExportRequest) : Invocation :=
  client.dialect.exportEvents client.endpoint request

/-- Whether a status request succeeds, whatever it says. -/
def probe (client : Client) (engine : Engine) : Answer Bool :=
  let run := engine.run client.statusInvocation client.probeTimeout client.grace
  ⟨run.answer.isOk, run.calls⟩

/-- The status that an output tells. -/
def readStatus (invocation : Invocation) (output : Bytes) : Except Error Json :=
  match Json.parse output with
  | .ok document => .ok document
  | .error fault =>
    let error := Error.ofRaw "engine status is not valid json" output
    .error { error with input := some invocation.display, causes := [fault.message] }

/-- The status of the node. -/
def status (client : Client) (engine : Engine) : Answer (Except Error Json) :=
  let invocation := client.statusInvocation
  let run := engine.run invocation client.probeTimeout client.grace
  ⟨run.answer.bind (readStatus invocation), run.calls⟩

/-- The number that an output is, blanks around it dropped. -/
def countOf? (output : Bytes) : Option Nat := do
  let text ← Utf8.decode? output
  (Unsigned.parse Unsigned.max64 (Text.trim text)).toOption

/-- The count that an output tells. -/
def readCount (query : Query) (output : Bytes) : Except Error Nat :=
  match countOf? output with
  | some count => .ok count
  | none =>
    let error := Error.ofRaw "engine count output is not an integer" output
    .error { error with input := some query.expression }

/-- How many events match. -/
def count (client : Client) (query : Query) (engine : Engine) : Answer (Except Error Nat) :=
  let run := engine.run (client.countInvocation query) client.countTimeout client.grace
  ⟨run.answer.bind (readCount query), run.calls⟩

/-- An export of the events that match; the engine is started at the first read. -/
def exportEvents (client : Client) (request : ExportRequest) (engine : Engine) : Session :=
  { engine, invocation := client.exportInvocation request, request, grace := client.grace }

end Client

end EngineClient
