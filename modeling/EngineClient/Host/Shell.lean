import EngineClient.Host.Files
import EngineClient.Host.Shell.Command
import EngineClient.Host.Shell.Utility

/-! A shell that runs scripts as processes. -/

namespace EngineClient.Shell

/-- Where a stream of a command goes. -/
inductive Channel where
  /-- To the output of the process. -/
  | output
  /-- To its error output. -/
  | errorOutput
  /-- To the input of the next command. -/
  | pipe
  /-- Nowhere. -/
  | nowhere
deriving DecidableEq, Repr

/-- A shell at some point of a script. -/
structure State where
  /-- The name the shell was started under. -/
  name : String
  /-- The values of variables. -/
  bindings : List (String × String) := []
  /-- How the last command ended. -/
  status : Nat := 0
  /-- What the process has done, in reverse. -/
  deeds : List Deed := []
  /-- The exit code, once the shell has ended; no code means by a signal. -/
  ended : Option (Option Int) := none
  /-- Whether a loop is being left. -/
  leaving : Bool := false
  /-- What is done when the process is told to end. -/
  response : Response := .ends
  /-- What runs when the shell exits. -/
  onExit : Command := .nothing
  /-- What is there to be read. -/
  input : Bytes := []
  /-- Where output goes. -/
  out : Channel := .output
  /-- Where error output goes. -/
  err : Channel := .errorOutput
  /-- What went to the next command, in reverse. -/
  piped : List Bytes := []
  /-- How many milliseconds have passed. -/
  elapsed : Nat := 0

namespace State

/-- The number of every process. -/
def processNumber : String := "1"

/-- After this many milliseconds a script counts as one that never ends. -/
def timeLimit : Nat := 100000

/-- Writes to a channel. -/
def write (state : State) (channel : Channel) (bytes : Bytes) : State :=
  match channel with
  | .output => { state with deeds := .output bytes :: state.deeds }
  | .errorOutput => { state with deeds := .errorOutput bytes :: state.deeds }
  | .pipe => { state with piped := bytes :: state.piped }
  | .nowhere => state

/-- The shell when it will never end. -/
def hang (state : State) : State :=
  { state with deeds := .hang :: state.deeds, ended := some none }

/-- The shell after a deed of a program it started. -/
def perform (state : State) : Deed → State
  | .output bytes => state.write state.out bytes
  | .errorOutput bytes => state.write state.err bytes
  | .pause duration =>
    { state with
      deeds := .pause duration :: state.deeds, elapsed := state.elapsed + duration }
  | .hang => state.hang
  | .resolve _ => state

/-- The shell after a program it started. -/
def run (state : State) (effect : Effect) : State :=
  { effect.deeds.foldl perform state with status := effect.code }

/-- The shell after a command that complains and fails. -/
def fail (state : State) (code : Nat) (complaint : String) : State :=
  state.run (.fails code (state.name ++ ": 1: " ++ complaint))

/-- The value of a variable. -/
def valueOf (state : State) (name : String) : String :=
  match name with
  | "$" => processNumber
  | "?" => toString state.status
  | name => (state.bindings.lookup name).getD ""

/-- Whether the shell runs no more commands, or leaves a loop. -/
def isDone (state : State) : Bool :=
  state.ended.isSome || state.leaving

/-- The shell with a decision on what to do when it is told to end. -/
def resolve (state : State) (response : Response) : State :=
  { state with response, deeds := .resolve response :: state.deeds }

end State

/-- The text of a word. -/
def expand (state : State) (word : Word) : String :=
  String.join (word.pieces.map fun piece => match piece with
    | .char char => char.toString
    | .variable name _ => state.valueOf name)

/-- The words that a word stands for: none where it is empty and not quoted. -/
def expandWord (state : State) (word : Word) : List String :=
  let text := expand state word
  if text.isEmpty && !word.quoted then [] else [text]

/-- The variable that a word sets, if it is an assignment. -/
def assignment? (word : Word) : Option (String × Word) :=
  let name := word.pieces.takeWhile fun piece => match piece with
    | .char char => isNameChar char
    | .variable _ _ => false
  match word.pieces.drop name.length with
  | .char '=' :: value =>
    let chars := name.filterMap fun piece => match piece with
      | .char char => some char
      | .variable _ _ => none
    if name.isEmpty then none else some (String.ofList chars, { word with pieces := value })
  | _ => none

/-- The shell with a stream redirected, or nothing where that cannot be done. -/
def redirected (state : State) (redirect : Redirect) : Option State :=
  let target := expand state redirect.target
  let channel := match redirect.text, target with
    | ">&", "1" => some state.out
    | ">&", "2" => some state.err
    | ">", "/dev/null" => some .nowhere
    | ">", "/dev/stdout" => some state.out
    | ">", "/dev/stderr" => some state.err
    | _, _ => none
  match redirect.stream, channel with
  | 1, some channel => some { state with out := channel }
  | 2, some channel => some { state with err := channel }
  | 0, _ =>
    match contentOf? target state.input with
    | some (some bytes) => some { state with input := bytes }
    | _ => if redirect.text = "<&" then some state else none
  | _, _ => none

/-- The shell with some streams redirected. -/
def redirectAll (state : State) : List Redirect → Option State
  | [] => some state
  | redirect :: rest => do redirectAll (← redirected state redirect) rest

/-- The shell with the streams that it had before. -/
def State.restore (state before : State) : State :=
  { state with out := before.out, err := before.err, input := before.input }

/-- The signal that a name or number means. -/
def signalName (text : String) : String :=
  let name := if text.startsWith "SIG" then (text.drop 3).toString else text
  if name = "15" then "TERM" else if name = "9" then "KILL" else if name = "0" then "EXIT" else name

/-- The shell after a signal to itself. -/
def signalled (state : State) (signal : String) : State :=
  match signalName signal, state.response with
  | "EXIT", _ => { state with status := 0 }
  | "TERM", .ignores => { state with status := 0 }
  | "TERM", .handles stderr code =>
    let state := state.write .errorOutput stderr
    { state with status := 0, ended := code.map some }
  | _, _ => { state with ended := some none }

/-- The shell after `kill`. -/
def kill (state : State) (args : List String) : State :=
  let (signal, targets) := match args with
    | "-s" :: signal :: rest => (signal, rest)
    | first :: rest =>
      if first.startsWith "-" then ((first.drop 1).toString, rest) else ("TERM", args)
    | [] => ("TERM", [])
  if targets = [State.processNumber] then signalled state signal
  else state.fail 1 "kill: No such process"

/-- The shell after `exit`. -/
def exit (state : State) (args : List String) : State :=
  match args with
  | [] => { state with ended := some (some state.status) }
  | text :: _ =>
    match text.toNat? with
    | some code => { state with ended := some (some (code % 256 : Nat)) }
    | none =>
      { state.fail 2 ("exit: Illegal number: " ++ text) with ended := some (some 2) }

/-- The command of a script; `none` where it is not well written, with what is said of that. -/
def compile (script : String) : Except String Command :=
  match tokens script with
  | none => .error "Syntax error: Unterminated quoted string"
  | some tokens =>
    match Command.ofTokens? tokens with
    | some command => .ok command
    | none => .error "Syntax error: end of file unexpected"

/-- A program that is started by the shell. -/
def external (state : State) (name : String) (args : List String) : State :=
  match Files.find name with
  | .ok program => state.run (utility program args state.input)
  | .error .denied => state.fail 126 (name ++ ": Permission denied")
  | .error _ => state.fail 127 (name ++ ": not found")

/-- A command of the shell's own that needs no other command to be run, or else a program. -/
def runWords (state : State) (words : List String) : State :=
  match words with
  | [] => { state with status := 0 }
  | ":" :: _ => { state with status := 0 }
  | "true" :: _ => { state with status := 0 }
  | "false" :: _ => { state with status := 1 }
  | "echo" :: args => state.run (.writes (echo args))
  | "exit" :: args => exit state args
  | "kill" :: args => kill state args
  | "break" :: _ => { state with leaving := true }
  | "[" :: args => state.run (test (if args.getLast? = some "]" then args.dropLast else []))
  | name :: args => external state name args

/-- The shell after the words of a command, of which `trap` and `exec` have already been seen to. -/
def runSimple (state : State) (words : List Word) (found : List Redirect)
    (run : State → List String → State) : State :=
  let assignments := words.takeWhile fun word => (assignment? word).isSome
  let others := words.drop assignments.length
  match redirectAll state found with
  | none => state.fail 2 "cannot redirect"
  | some inner =>
    let values := assignments.filterMap assignment?
    let inner := values.foldl (fun state (name, value) =>
      { state with bindings := (name, expand state value) :: state.bindings }) inner
    (run inner (others.flatMap (expandWord inner))).restore state

/-- Runs a command, with a bound on the depth of what is run. -/
def eval (command : Command) (state : State) : Nat → State
  | 0 => state.hang
  | fuel + 1 =>
    if state.isDone then state
    else if State.timeLimit < state.elapsed then state.hang
    else match command with
      | .nothing => state
      | .simple words found =>
        runSimple state words found fun state words =>
          match words with
          | "exec" :: args =>
            if args.isEmpty then state
            else
              -- A program takes the place of the shell, and handles no signal as the shell did.
              let state := match state.response with
                | .handles _ _ => state.resolve .ends
                | _ => state
              let state := external state (args.headD "") args.tail
              { state with ended := state.ended.or (some (some state.status)), onExit := .nothing }
          | "trap" :: action :: signals =>
            match compile action with
            | .error complaint => state.fail 2 ("trap: " ++ complaint)
            | .ok handler =>
              let names := signals.map signalName
              let state := if names.contains "EXIT" then { state with onExit := handler } else state
              if names.contains "TERM" then
                if action = "-" then state.resolve .ends
                else if action.isEmpty then state.resolve .ignores
                else
                  let after := eval handler { state with deeds := [], err := .errorOutput } fuel
                  let stderr := after.deeds.reverse.filterMap fun deed => match deed with
                    | .errorOutput bytes => some bytes
                    | _ => none
                  state.resolve (.handles stderr.flatten (after.ended.bind id))
              else { state with status := 0 }
          | words => runWords state words
      | .pipe first second =>
        let before := eval first { state with out := .pipe, piped := [] } fuel
        -- The commands before the bar run in a shell of their own, whose end is not this one's.
        let ended := if before.ended = some none then before.ended else none
        let input := before.piped.reverse.flatten
        let after := eval second { before with
          out := state.out, piped := state.piped, ended, input, bindings := state.bindings } fuel
        after.restore state
      | .guarded onSuccess first second =>
        let state := eval first state fuel
        if (state.status = 0) = onSuccess then eval second state fuel else state
      | .sequence first second => eval second (eval first state fuel) fuel
      | .negated command =>
        let state := eval command state fuel
        { state with status := if state.status = 0 then 1 else 0 }
      | .loop condition body =>
        let state := eval condition state fuel
        if state.ended.isSome then state
        else if state.status = 0 then
          let state := eval body state fuel
          if state.leaving then { state with leaving := false, status := 0 }
          else eval (.loop condition body) state fuel
        else { state with status := 0 }
      | .each name words body =>
        match words with
        | [] => state
        | word :: rest =>
          let bindings := (expand state name, expand state word) :: state.bindings
          let state := eval body { state with bindings } fuel
          if state.leaving then { state with leaving := false, status := 0 }
          else eval (.each name rest body) state fuel
      | .choice condition onSuccess onFailure =>
        let state := eval condition state fuel
        if state.status = 0 then eval onSuccess state fuel
        else eval onFailure { state with status := 0 } fuel
      | .group own body found =>
        match redirectAll state found with
        | none => state.fail 2 "cannot redirect"
        | some inner =>
          let after := (eval body inner fuel).restore state
          if own then
            match after.ended with
            | some (some code) =>
              { after with ended := none, status := code.toNat, bindings := state.bindings }
            | _ => { after with bindings := state.bindings }
          else after

/-- How deep commands may be run inside each other. -/
def depthLimit : Nat := 20000

/-- The process of a shell that has come to the end of its script. -/
def State.finish (state : State) : Process :=
  let code := state.ended.getD (some state.status)
  match code with
  | none => { deeds := state.deeds.reverse, code := none }
  | some code =>
    let after := eval state.onExit { state with ended := none, onExit := .nothing } depthLimit
    { deeds := after.deeds.reverse, code := after.ended.getD (some code) }

/-- The process of a shell that is started with some arguments. -/
def process (name : String) (args : List String) : Process :=
  match args with
  | "-c" :: script :: rest =>
    let state : State := { name := rest.headD name }
    let values := rest.tail.zipIdx.map fun (value, place) => (toString (place + 1), value)
    match compile script with
    | .ok command => (eval command { state with bindings := values } depthLimit).finish
    | .error complaint => { state.fail 2 complaint with ended := some (some 2) }.finish
  | "-c" :: [] =>
    { deeds := [.errorOutput (Utf8.encode (name ++ ": 0: -c requires an argument\n"))]
      code := some 2 }
  | path :: _ =>
    { deeds := [.errorOutput (Utf8.encode
        (name ++ ": 0: cannot open " ++ path ++ ": No such file\n"))]
      code := some 2 }
  -- There is nothing to be read where a script could be.
  | [] => {}

end EngineClient.Shell
