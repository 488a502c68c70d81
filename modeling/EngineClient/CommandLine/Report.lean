import EngineClient.Dialect
import EngineClient.Json.Printer

/-! How a command line reports a failure: with default hints, as JSON or as lines of text. -/

namespace EngineClient.CommandLine

/-- What is said of a failure that has no message of its own. -/
def defaultMessage : ErrorKind → String
  | .internal => "internal error"
  | .usage => "usage error"
  | .unreachable => "engine unreachable"
  | .execution => "engine command failed"
  | .protocol => "unexpected engine output"
  | .timeout => "engine timed out"
  | .cancelled => "cancelled"
  | .io => "i/o error"

/-- What is said of a failure. -/
def messageOf (error : Error) : String :=
  error.message.getD (defaultMessage error.kind)

/-- What is advised on a failure that has no hint of its own. -/
def defaultHint : ErrorKind → Option String
  | .unreachable => some ("Check that a node listens on the endpoint (default "
      ++ Endpoint.default.display ++ ") or pass --endpoint.")
  | .timeout => some "The node did not answer in time. Raise --timeout-ms or check node load."
  | .execution =>
    some "The engine rejected the command. Check the query expression and the stderr above."
  | .io => some "I/O error while talking to the engine process."
  | .internal => some ("Unexpected internal failure. Retry with RUST_LOG=debug and share "
      ++ "command/context if it persists.")
  | _ => none

/-- The failure with a hint, if there is one to give. -/
def withHint (error : Error) : Error :=
  { error with hint := error.hint.or (defaultHint error.kind) }

/-- A pair of an object, left out where there is no value. -/
def pair? (name : String) (value : Option Json) : List (String × Json) :=
  match value with
  | some value => [(name, value)]
  | none => []

/-- The failure as a JSON document. -/
def errorJson (error : Error) : Json :=
  let causes := if error.causes.isEmpty then none else some (Json.array (error.causes.map .string))
  .object [("error", .object (
    pair? "causes" causes
      ++ pair? "exit_code" (error.exitCode.map Json.int)
      ++ pair? "hint" (error.hint.map .string)
      ++ pair? "input" (error.input.map .string)
      ++ [("kind", .string error.kind.name), ("message", .string (messageOf error))]
      ++ pair? "raw" (error.rawPreview.map .string)
      ++ pair? "stderr" (error.stderr.map fun text => .string (Text.trim text))))]

/-- The colours of labels on a terminal. -/
inductive LabelColor where
  /-- For what went wrong. -/
  | red
  /-- For what is told about it. -/
  | yellow

/-- The terminal's number of a colour. -/
def LabelColor.code : LabelColor → String
  | .red => "31"
  | .yellow => "33"

/-- A label, in its colour where colours are wanted. -/
def label (colored : Bool) (color : LabelColor) (text : String) : String :=
  if colored then "\x1b[" ++ color.code ++ "m" ++ text ++ "\x1b[0m" else text

/-- A labelled line, left out where there is nothing to tell. -/
def line? (colored : Bool) (name : String) (text : Option String) : List String :=
  match text with
  | some text => [label colored .yellow name ++ " " ++ text]
  | none => []

/-- The failure as lines of text. -/
def errorText (colored : Bool) (error : Error) : String :=
  "\n".intercalate (
    [label colored .red "error:" ++ " " ++ messageOf error]
      ++ line? colored "hint:" error.hint
      ++ line? colored "input:" error.input
      ++ line? colored "stderr:" (error.stderr.map Text.trim)
      ++ line? colored "raw:" (error.rawPreview.map Quoted.quote)
      ++ line? colored "caused by:" error.causes.head?)

end EngineClient.CommandLine
