import EngineClient.Client

/-! Settings of a connection, as a user gives them. -/

namespace EngineClient

/-- Settings of a connection. -/
structure Connection where
  /-- Where the node listens, not read yet. -/
  endpoint : String := Endpoint.default.display
  /-- The engine program. -/
  program : String := Dialect.defaultProgram
  /-- How many milliseconds a short request may take, where the defaults are not wanted. -/
  timeout : Option Nat := none
deriving DecidableEq, Repr

namespace Connection

/-- The client of a node at an endpoint, if that can be read. -/
def clientFor (connection : Connection) (endpoint : String) : Except Error Client := do
  let endpoint ← Endpoint.parse endpoint
  let client : Client := { endpoint, program := connection.program }
  return match connection.timeout with
    | some timeout => { client with probeTimeout := timeout, countTimeout := timeout }
    | none => client

/-- The client of the node that the settings name. -/
def client (connection : Connection) : Except Error Client :=
  connection.clientFor connection.endpoint

end Connection

end EngineClient
