import EngineClient.CommandLine.Command

/-! The values that a command line can hold, and what can be wrong with them. -/

namespace EngineClient.CommandLine

/-- A place for a value. -/
inductive Slot where
  /-- The node's endpoint. -/
  | endpoint
  /-- The engine program. -/
  | program
  /-- How long a short request may take. -/
  | timeout
  /-- How documents are laid out. -/
  | color
  /-- Which events are exported. -/
  | mode
  /-- How exported events are written. -/
  | encoding
  /-- How many events are exported at most. -/
  | maxEvents
  /-- The query expression. -/
  | expression
  /-- The shell to write completions for. -/
  | shell
deriving DecidableEq, Repr

namespace Slot

/-- The name of the option that the value belongs to; a value without one is told by its place. -/
def option? : Slot → Option String
  | .endpoint => some "endpoint"
  | .program => some "program"
  | .timeout => some "timeout-ms"
  | .color => some "color"
  | .mode => some "mode"
  | .encoding => some "encoding"
  | .maxEvents => some "max-events"
  | .expression => none
  | .shell => none

/-- What stands for the value. -/
def valueName : Slot → String
  | .endpoint => "ENDPOINT"
  | .program => "PROGRAM"
  | .timeout => "MS"
  | .color => "COLOR"
  | .mode => "MODE"
  | .encoding => "ENCODING"
  | .maxEvents => "N"
  | .expression => "EXPR"
  | .shell => "SHELL"

/-- The place as it is shown. -/
def label (slot : Slot) : String :=
  match slot.option? with
  | some name => "--" ++ name ++ " <" ++ slot.valueName ++ ">"
  | none => if slot = .expression then "[" ++ slot.valueName ++ "]" else "<" ++ slot.valueName ++ ">"

end Slot

/-- The part of a command line that words belong to. -/
inductive Level where
  /-- What stands before the command. -/
  | top
  /-- What stands behind the name of a command. -/
  | command (name : CommandName)
deriving DecidableEq, Repr

namespace Level

/-- The options that take a value. -/
def options : Level → List Slot
  | .top => [.endpoint, .program, .timeout, .color]
  | .command .exportEvents => [.mode, .encoding, .maxEvents]
  | .command _ => []

/-- The value that is told by its place. -/
def positional? : Level → Option Slot
  | .command .count => some .expression
  | .command .exportEvents => some .expression
  | .command .completion => some .shell
  | _ => none

/-- The value that belongs to an option. -/
def option? (level : Level) (name : String) : Option Slot :=
  level.options.find? fun slot => slot.option? = some name

end Level

/-- What is wrong with a command line. -/
inductive ArgumentFault where
  /-- An option or a word for which there is no place. -/
  | unexpected (word : String)
  /-- A word where the name of a command is due. -/
  | unknownCommand (word : String)
  /-- An option without its value. -/
  | missingValue (slot : Slot)
  /-- An option that was given before. -/
  | repeated (slot : Slot)
  /-- A value for an option that takes none. -/
  | needlessValue (value option : String)
  /-- A value that is none of those allowed. -/
  | badChoice (value : String) (slot : Slot)
  /-- A value that is no number. -/
  | badNumber (value : String) (slot : Slot) (fault : Unsigned.Fault)
  /-- No command at all. -/
  | missingCommand
deriving DecidableEq, Repr

namespace ArgumentFault

/-- The fault in words. -/
def describe : ArgumentFault → String
  | .unexpected word => "unexpected argument '" ++ word ++ "' found"
  | .unknownCommand word => "unrecognized subcommand '" ++ word ++ "'"
  | .missingValue slot =>
    "a value is required for '" ++ slot.label ++ "' but none was supplied"
  | .repeated slot => "the argument '" ++ slot.label ++ "' cannot be used multiple times"
  | .needlessValue value option =>
    "unexpected value '" ++ value ++ "' for '" ++ option ++ "' found; no more were expected"
  | .badChoice value slot => "invalid value '" ++ value ++ "' for '" ++ slot.label ++ "'"
  | .badNumber value slot fault =>
    "invalid value '" ++ value ++ "' for '" ++ slot.label ++ "': " ++ fault.message
  | .missingCommand => "'tenzir-client' requires a subcommand but one was not provided"

/-- The first line of the fault in words. -/
def message (fault : ArgumentFault) : String :=
  Text.trim (((Text.lines fault.describe).find? fun line => Text.trim line ≠ "").getD "")

/-- Whether the fault lies in a value, so that the command it was found in says nothing about it. -/
def liesInValue : ArgumentFault → Bool
  | .missingValue _ | .badChoice _ _ | .badNumber _ _ _ => true
  | _ => false

/-- What to try on a fault in a part of the command line. -/
def hint (fault : ArgumentFault) (level : Level) : String :=
  match fault.liesInValue, level with
  | false, .command name => "Try `tenzir-client " ++ name.text ++ " --help`."
  | _, _ => "Try `tenzir-client --help`."

/-- The failure that the fault is. -/
def toError (fault : ArgumentFault) (level : Level) : Error :=
  { kind := .usage, message := some fault.message, hint := some (fault.hint level) }

end ArgumentFault

/-- The values that were given. -/
structure Values where
  endpoint : Option String := none
  program : Option String := none
  timeout : Option Nat := none
  color : Option ColorMode := none
  mode : Option ExportMode := none
  encoding : Option Encoding := none
  maxEvents : Option Nat := none
  expression : Option String := none
  shell : Option ShellName := none
deriving DecidableEq, Repr

namespace Values

/-- A value in a place that must be empty. -/
def once {α : Type} (slot : Slot) (held : Option α) (read : Except ArgumentFault α) :
    Except ArgumentFault (Option α) :=
  if held.isSome then .error (.repeated slot) else read.map some

/-- Reads one of some named values. -/
def readChoice {α : Type} (slot : Slot) (choices : List α) (name : α → String) (text : String) :
    Except ArgumentFault α :=
  match choices.find? fun choice => name choice = text with
  | some choice => .ok choice
  | none => .error (if text.isEmpty then .missingValue slot else .badChoice text slot)

/-- Reads a number of sixty-four bits. -/
def readNumber (slot : Slot) (text : String) : Except ArgumentFault Nat :=
  (Unsigned.parse Unsigned.max64 text).mapError (.badNumber text slot)

/-- Reads a text that must not be empty. -/
def readPath (slot : Slot) (text : String) : Except ArgumentFault String :=
  if text.isEmpty then .error (.missingValue slot) else .ok text

/-- Puts a value into its place. -/
def set (values : Values) (slot : Slot) (text : String) : Except ArgumentFault Values :=
  match slot with
  | .endpoint => do
    let endpoint ← once slot values.endpoint (.ok text)
    return { values with endpoint }
  | .program => do
    let program ← once slot values.program (readPath slot text)
    return { values with program }
  | .timeout => do
    let timeout ← once slot values.timeout (readNumber slot text)
    return { values with timeout }
  | .color => do
    let color ← once slot values.color (readChoice slot ColorMode.all ColorMode.name text)
    return { values with color }
  | .mode => do
    let mode ← once slot values.mode
      (readChoice slot [.historical, .continuous, .unified] ExportMode.name text)
    return { values with mode }
  | .encoding => do
    let encoding ← once slot values.encoding (readChoice slot [.json, .arrow] Encoding.name text)
    return { values with encoding }
  | .maxEvents => do
    let maxEvents ← once slot values.maxEvents (readNumber slot text)
    return { values with maxEvents }
  | .expression => do
    let expression ← once slot values.expression (.ok text)
    return { values with expression }
  | .shell => do
    let shell ← once slot values.shell (readChoice slot ShellName.all ShellName.name text)
    return { values with shell }

/-- Whether no value for the part before the command was given. -/
def isBare (values : Values) : Bool :=
  values.endpoint.isNone && values.program.isNone && values.timeout.isNone && values.color.isNone

end Values

end EngineClient.CommandLine
