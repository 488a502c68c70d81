import EngineClient.Text.Blank
import EngineClient.Text.Quoted
import EngineClient.Text.Utf8

/-! What is reported when an engine could not be used, and how the report reads. -/

namespace EngineClient

/-- The kinds of failure a caller can tell apart. -/
inductive ErrorKind where
  /-- A fault of this library. -/
  | internal
  /-- A request that cannot be made. -/
  | usage
  /-- An engine or node that cannot be reached. -/
  | unreachable
  /-- A command that the engine ended as failed. -/
  | execution
  /-- Output that breaks the format agreed on. -/
  | protocol
  /-- An engine that did not finish in time. -/
  | timeout
  /-- An export that was called off. -/
  | cancelled
  /-- A failed read or write. -/
  | io
deriving DecidableEq, Repr

/-- The name of the kind. -/
def ErrorKind.name : ErrorKind → String
  | .internal => "Internal"
  | .usage => "Usage"
  | .unreachable => "Unreachable"
  | .execution => "Execution"
  | .protocol => "Protocol"
  | .timeout => "Timeout"
  | .cancelled => "Cancelled"
  | .io => "Io"

/-- The exit status with which a program ends on a failure of the kind. -/
def ErrorKind.exitStatus : ErrorKind → Nat
  | .internal => 1
  | .usage => 2
  | .unreachable => 3
  | .execution => 4
  | .protocol => 5
  | .timeout => 6
  | .cancelled => 7
  | .io => 8

/-- A failure and what is known about it. -/
structure Error where
  /-- The kind of failure. -/
  kind : ErrorKind
  /-- What went wrong. -/
  message : Option String := none
  /-- What to try. -/
  hint : Option String := none
  /-- What the engine wrote to its error output. -/
  stderr : Option String := none
  /-- The unit of output at fault. -/
  raw : Option Bytes := none
  /-- The exit code of the engine. -/
  exitCode : Option Int := none
  /-- The input that led to the failure. -/
  input : Option String := none
  /-- The causes below the failure, the nearest first. -/
  causes : List String := []
deriving DecidableEq, Repr

namespace Error

/-- Adds the engine's error output, unless it is blank. -/
def withStderr (error : Error) (text : String) : Error :=
  if (Text.trimList Text.isBlank text.toList).isEmpty then error
  else { error with stderr := some text }

/-- A unit of output that breaks its format. -/
def ofRaw (message : String) (raw : Bytes) : Error :=
  { kind := .protocol, message := some message, raw := some raw }

/-- A failed read of engine output. -/
def ofRead (cause : String) : Error :=
  { kind := .io, message := some "failed to read engine output", causes := [cause] }

/-- How many bytes of a unit are shown. -/
def previewLength : Nat := 256

/-- The beginning of a unit as text, and the unit's length where that is not all of it. -/
def preview (raw : Bytes) : String :=
  let shown := Utf8.decodeLossy (raw.take previewLength)
  if previewLength < raw.length then
    shown ++ "... (" ++ toString raw.length ++ " bytes)"
  else shown

/-- The beginning of the unit at fault as text. -/
def rawPreview (error : Error) : Option String :=
  error.raw.map preview

/-- A part of a report that is left out where there is nothing to report. -/
def part {α : Type} (held : Option α) (render : α → String) : String :=
  match held with
  | some value => render value
  | none => ""

/-- The failure on one line. -/
def display (error : Error) : String :=
  error.kind.name
    ++ part error.message (fun message => ": " ++ message)
    ++ part error.exitCode (fun code => " (exit code: " ++ toString code ++ ")")
    ++ part error.input (fun input => " (input: " ++ input ++ ")")
    ++ part error.rawPreview (fun preview => " (raw: " ++ Quoted.quote preview ++ ")")
    ++ part error.stderr (fun stderr => " (stderr: " ++ Text.trim stderr ++ ")")

end Error

end EngineClient
