import EngineClient.Error
import EngineClient.Text.Blank
import EngineClient.Text.Split
import EngineClient.Text.Unsigned

/-! Addresses of engine nodes: their text form and how it is read. -/

namespace EngineClient

/-- Where a node listens. -/
structure Endpoint where
  /-- The name or address of the machine. -/
  host : String
  /-- The port number. -/
  port : UInt16
  /-- There is no endpoint without a host. -/
  named : host ≠ ""
deriving DecidableEq

namespace Endpoint

/-- The host that is meant where none is given. -/
def defaultHost : String := "localhost"

/-- The port that is meant where none is given. -/
def defaultPort : UInt16 := 5158

/-- The endpoint with a host and a port, an empty host standing for the default one. -/
def make (host : String) (port : UInt16) : Endpoint :=
  if named : host = "" then ⟨defaultHost, port, by decide⟩ else ⟨host, port, named⟩

/-- The endpoint that is meant where none is given. -/
def default : Endpoint :=
  make defaultHost defaultPort

/-- Why a text is no endpoint. -/
inductive Fault where
  /-- A protocol other than tcp stands behind the address. -/
  | protocol
  /-- A bracket is opened and never closed. -/
  | unterminatedHost
  /-- Something other than a port stands behind a bracketed host. -/
  | textAfterHost
  /-- The port is no number of sixteen bits. -/
  | port (cause : Unsigned.Fault)
deriving DecidableEq, Repr

/-- The failure to report for a text that is no endpoint. -/
def Fault.toError (text : String) : Fault → Error
  | .protocol =>
    { kind := .usage, message := some "unsupported endpoint protocol", input := some text
      hint := some "Only tcp endpoints are supported, e.g. `localhost:5158/tcp`." }
  | .unterminatedHost =>
    { kind := .usage, message := some "unterminated IPv6 host", input := some text }
  | .textAfterHost =>
    { kind := .usage, message := some "unexpected text after IPv6 host", input := some text }
  | .port cause =>
    { kind := .usage, message := some "invalid endpoint port", input := some text
      hint := some "Use a port between 0 and 65535.", causes := [cause.message] }

/-- Reads a port, an empty one standing for the default one. -/
def readPort (digits : List Char) : Except Fault UInt16 :=
  if digits.isEmpty then .ok defaultPort
  else match Unsigned.parseList Unsigned.max16 digits with
    | .ok port => .ok (UInt16.ofNat port)
    | .error cause => .error (.port cause)

/-- Drops the protocol behind the last slash, which may only be tcp. -/
def withoutProtocol (text : List Char) : Except Fault (List Char) :=
  match Text.splitLast '/' text with
  | none => .ok text
  | some (address, protocol) =>
    if protocol.map Char.toLower = ['t', 'c', 'p'] then .ok address else .error .protocol

/-- The endpoint with a host, and the port behind it. -/
def withPort (host digits : List Char) : Except Fault Endpoint :=
  match readPort digits with
  | .ok port => .ok (make (String.ofList host) port)
  | .error fault => .error fault

/-- Reads an address behind its opening bracket. -/
def readBracketed (rest : List Char) : Except Fault Endpoint :=
  match Text.splitFirst ']' rest with
  | none => .error .unterminatedHost
  | some (host, []) => .ok (make (String.ofList host) defaultPort)
  | some (host, ':' :: digits) => withPort host digits
  | some (_, _ :: _) => .error .textAfterHost

/-- Reads an address: a bracketed host, a host with more than one colon, or a host and a port. -/
def readAddress (address : List Char) : Except Fault Endpoint :=
  match address with
  | '[' :: rest => readBracketed rest
  | _ =>
    -- With more than one colon there is no telling which one would precede a port.
    if 1 < address.count ':' then .ok (make (String.ofList address) defaultPort)
    else match Text.splitFirst ':' address with
      | some (host, digits) => withPort host digits
      | none => .ok (make (String.ofList address) defaultPort)

/-- Reads an endpoint from a text without blanks around it. -/
def read (text : List Char) : Except Fault Endpoint :=
  match withoutProtocol text with
  | .ok address => readAddress address
  | .error fault => .error fault

/-- Reads an endpoint, or reports the text exactly as it was given. -/
def parse (text : String) : Except Error Endpoint :=
  match read (Text.trimList Text.isBlank text.toList) with
  | .ok endpoint => .ok endpoint
  | .error fault => .error (fault.toError text)

/-- The host and the port, the host in brackets where it holds a colon. -/
def display (endpoint : Endpoint) : String :=
  let port := toString endpoint.port.toNat
  if endpoint.host.toList.contains ':' then "[" ++ endpoint.host ++ "]:" ++ port
  else endpoint.host ++ ":" ++ port

end Endpoint

end EngineClient
