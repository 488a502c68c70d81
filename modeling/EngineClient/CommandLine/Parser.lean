import EngineClient.CommandLine.Slot
import EngineClient.Text.Split

/-! Command lines are read word by word. -/

namespace EngineClient.CommandLine

/-- Why a command line is not carried out. -/
inductive Stop where
  /-- Help on a part is asked for, in its long form where there is one. -/
  | help (level : Level) (long : Bool)
  /-- The version is asked for. -/
  | version
  /-- A part is empty that says nothing by itself. -/
  | nothing (level : Level)
  /-- Something is wrong in a part. -/
  | fault (level : Level) (fault : ArgumentFault)
deriving DecidableEq, Repr

/-- A part of a command line, read up to some word. -/
structure Scan where
  /-- The part. -/
  level : Level
  /-- The values read so far. -/
  values : Values := {}
  /-- The place that was named last, with its value once that has come. -/
  pending : Option (Slot × Option String) := none
  /-- Whether all further words are values. -/
  trailing : Bool := false
  /-- Whether the value that is told by its place has come. -/
  placed : Bool := false

namespace Scan

/-- Stops at something that is wrong. -/
def stop {α : Type} (scan : Scan) (fault : ArgumentFault) : Except Stop α :=
  .error (.fault scan.level fault)

/-- Whether the next word is the value of an option. -/
def awaits (scan : Scan) : Bool :=
  match scan.pending with
  | some (_, none) => !scan.trailing
  | _ => false

/-- Puts the value that has come into its place. -/
def resolve (scan : Scan) : Except Stop Scan :=
  match scan.pending with
  | none => .ok scan
  | some (slot, none) => scan.stop (.missingValue slot)
  | some (slot, some text) =>
    match scan.values.set slot text with
    | .ok values => .ok { scan with values, pending := none }
    | .error fault => scan.stop fault

/-- Reads an option that takes no value. -/
def readFlag (scan : Scan) (stop : Stop) : Except Stop Scan := do
  -- What is wrong with the option before it is told first.
  let _ ← scan.resolve
  .error stop

/-- The option without a value that a long name means. -/
def flag? (level : Level) (name : String) : Option Stop :=
  if name = "help" then some (.help level true)
  else if name = "version" ∧ level = .top then some .version
  else none

/-- Reads an option that is written out, with the value that is attached to it. -/
def readLong (scan : Scan) (name : String) (value : Option String) : Except Stop Scan :=
  match flag? scan.level name, scan.level.option? name, value with
  | some _, _, some value => scan.stop (.needlessValue value ("--" ++ name))
  | some stop, _, none => scan.readFlag stop
  | none, some slot, some value => do
    let scan ← scan.resolve
    { scan with pending := some (slot, some value) }.resolve
  | none, some slot, none => do
    let scan ← scan.resolve
    return { scan with pending := some (slot, none) }
  | none, none, _ => scan.stop (.unexpected ("--" ++ name))

/-- Reads options of one letter, of which the first one decides. -/
def readShort (scan : Scan) (letter : Char) : Except Stop Scan :=
  if letter = 'h' then scan.readFlag (.help scan.level false)
  else if letter = 'V' ∧ scan.level = .top then scan.readFlag .version
  else scan.stop (.unexpected (String.ofList ['-', letter]))

/-- Reads a value that is told by its place. -/
def readValue (scan : Scan) (word : String) : Except Stop Scan :=
  match scan.level.positional?, scan.placed with
  | some slot, false => do
    let scan ← scan.resolve
    return { scan with pending := some (slot, some word), placed := true }
  | _, _ =>
    -- Behind a double dash even the name of a command is no command.
    if scan.level = .top ∧ !(scan.trailing && (CommandName.ofText? word).isSome) then
      scan.stop (.unknownCommand word)
    else scan.stop (.unexpected word)

/-- Reads a word that names no command. -/
def read (scan : Scan) (word : String) : Except Stop Scan :=
  if scan.trailing then scan.readValue word
  else match word.toList with
    | ['-', '-'] => .ok { scan with trailing := true }
    | '-' :: '-' :: name =>
      match Text.splitFirst '=' name with
      | some (name, value) => scan.readLong (String.ofList name) (some (String.ofList value))
      | none => scan.readLong (String.ofList name) none
    | '-' :: letter :: _ => scan.readShort letter
    | _ =>
      match scan.pending with
      | some (slot, none) => .ok { scan with pending := some (slot, some word) }
      | _ => scan.readValue word

/-- The command that a word begins. -/
def enters? (scan : Scan) (word : String) : Option CommandName :=
  if scan.level = .top ∧ !scan.trailing ∧ !scan.awaits then CommandName.ofText? word else none

/-- Reads words up to the name of a command. -/
def readAll (scan : Scan) : List String → Except Stop (Scan × Option (CommandName × List String))
  | [] => .ok (scan, none)
  | word :: rest =>
    match scan.enters? word with
    | some name => .ok (scan, some (name, rest))
    | none => do
      let scan ← scan.read word
      scan.readAll rest

end Scan

/-- The help that is asked for by names of commands. -/
def helpOn (level : Level) : List String → Stop
  | [] => .help level true
  | word :: rest =>
    match level, CommandName.ofText? word with
    | .top, some name => helpOn (.command name) rest
    | _, _ => .fault level (.unknownCommand word)

/-- Reads the words behind the name of a command. -/
def readCommand (name : CommandName) (words : List String) : Except Stop Values :=
  if name = .help then .error (helpOn .top words)
  else do
    let level := Level.command name
    let (scan, _) ← ({ level } : Scan).readAll words
    let scan ← scan.resolve
    if name = .completion ∧ scan.values.shell.isNone then .error (.nothing level)
    else return scan.values

/-- What the environment says. -/
structure Environment where
  /-- The node's endpoint. -/
  endpoint : Option String := none
  /-- The engine program. -/
  program : Option String := none
deriving DecidableEq, Repr

/-- Takes over a value of the environment, unless another one was given. -/
def inherit (slot : Slot) (held text : Option String) (values : Values) : Except Stop Values :=
  match held, text with
  | none, some text => (values.set slot text).mapError (.fault .top)
  | _, _ => .ok values

/-- The command of a name with its values. -/
def commandOf (name : CommandName) (values : Values) : Option Command :=
  match name with
  | .probe => some .probe
  | .status => some .status
  | .count => some (.count values.expression)
  | .exportEvents => some (.exportEvents values.expression (values.mode.getD .historical)
      (values.encoding.getD .json) values.maxEvents)
  | .analyze => some .analyze
  | .version => some .version
  | .completion => values.shell.map .completion
  | .help => none

/-- The connection that values describe. -/
def connectionOf (values : Values) : Connection :=
  let absent : Connection := {}
  { endpoint := values.endpoint.getD absent.endpoint
    program := values.program.getD absent.program
    timeout := values.timeout }

/-- Reads a command line. -/
def parse (environment : Environment) (words : List String) : Except Stop Arguments := do
  let (scan, entered) ← ({ level := .top } : Scan).readAll words
  -- The command is read to its end before the last option in front of it is looked at.
  let command ← entered.mapM fun (name, rest) => do
    let values ← readCommand name rest
    return commandOf name values
  let scan ← scan.resolve
  let values ← inherit .endpoint scan.values.endpoint environment.endpoint scan.values
  let values ← inherit .program values.program environment.program values
  match command.join with
  | some command =>
    return { connection := connectionOf values, color := values.color.getD .auto, command }
  | none => if values.isBare then .error (.nothing .top) else .error (.fault .top .missingCommand)

end EngineClient.CommandLine
