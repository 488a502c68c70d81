import EngineClient.Analyzer
import EngineClient.CommandLine.Help
import EngineClient.CommandLine.Report

/-! Command lines are carried out: what is printed, and how the program ends. -/

namespace EngineClient.CommandLine

/-- What a command line leads to. -/
structure Outcome where
  /-- The exit status. -/
  status : Nat := 0
  /-- What is printed. -/
  stdout : String := ""
  /-- What is printed as a complaint. -/
  stderr : String := ""
  /-- The command lines that the host was asked to start, in order. -/
  commands : List Invocation := []
deriving DecidableEq, Repr

/-- The version of this program. -/
def versionText : String := "0.1.0"

namespace Outcome

/-- Prints a document as one line, or over several lines. -/
def document (color : ColorMode) (document : Json) : String :=
  (if color = .always then document.pretty else document.compact) ++ "\n"

/-- Ends with a failure, which is told with what to try. -/
def failed (error : Error) : Outcome :=
  let error := withHint error
  { status := error.kind.exitStatus, stderr := (errorJson error).compact ++ "\n" }

/-- Prints a document, or fails. -/
def ofAnswer (color : ColorMode) (answer : Except Error Json) : Outcome :=
  match answer with
  | .ok json => { stdout := document color json }
  | .error error => failed error

/-- The outcome with the command lines that led to it. -/
def after (outcome : Outcome) (commands : List Invocation) : Outcome :=
  { outcome with commands }

end Outcome

/-- The lines of exported events. -/
def recordLines (items : List (Except Error Record)) : String :=
  String.join (items.map fun item => match item with
    | .ok record => record.toJson.compact ++ "\n"
    | .error _ => "")

/-- The failure among exported events, if there is one. -/
def failureOf (items : List (Except Error Record)) : Option Error :=
  items.findSome? fun item => match item with
    | .ok _ => none
    | .error error => some error

/-- Prints events as they come, and ends with the export. -/
def printed (items : List (Except Error Record)) : Outcome :=
  match failureOf items with
  | some error => { Outcome.failed error with stdout := recordLines items }
  | none => { stdout := recordLines items }

/-- Tells whether the node answers. -/
def runProbe (host : Host) (color : ColorMode) (client : Client) : Outcome :=
  let command := client.statusInvocation
  let connected := (client.probe (host command)).result
  { status := if connected then 0 else ErrorKind.unreachable.exitStatus
    stdout := Outcome.document color (.object [("connected", .bool connected)])
    commands := [command] }

/-- Prints the node's status. -/
def runStatus (host : Host) (color : ColorMode) (client : Client) : Outcome :=
  let command := client.statusInvocation
  (Outcome.ofAnswer color (client.status (host command)).result).after [command]

/-- Counts the events that match. -/
def runCount (host : Host) (color : ColorMode) (client : Client) (query : Query) : Outcome :=
  let command := client.countInvocation query
  let answer := (client.count query (host command)).result
  (Outcome.ofAnswer color (answer.map fun count => .object [("count", Json.nat count)])).after
    [command]

variable [Platform]

/-- Prints the events that match; nothing is told where they never end. -/
def runExport (host : Host) (client : Client) (request : ExportRequest) : Option Outcome :=
  let command := client.exportInvocation request
  let taken := (client.exportEvents request (host command)).takeItems none
  taken.map fun taken => (printed taken.items).after [command]

/-- The failure of an input that is no text. -/
def inputError (fault : Utf8.Fault) : Error :=
  { kind := .io, message := some "failed to read job from stdin", causes := [fault.message] }

/-- Runs the analyzer job on the input; nothing is told where its export never ends. -/
def runAnalyze (host : Host) (color : ColorMode) (connection : Connection) (input : Bytes) :
    Option Outcome :=
  match Utf8.decode input with
  | .error fault => some (Outcome.failed (inputError fault))
  | .ok text =>
    let outcome := Analyzer.run host connection text
    outcome.report.map fun report =>
      { status := if report.isSuccess then 0 else 1
        stdout := Outcome.document color report.toJson
        commands := outcome.commands }

/-- The version of this program as a document. -/
def versionJson : Json :=
  .object [("name", .string "tenzir-client"), ("version", .string versionText)]

/-- Makes requests of a client, unless there is none. -/
def withClient (connection : Connection) (run : Client → Option Outcome) : Option Outcome :=
  match connection.client with
  | .ok client => run client
  | .error error => some (Outcome.failed error)

/-- Carries out a command; nothing is told where it never ends. -/
def dispatch (host : Host) (input : Bytes) (arguments : Arguments) : Option Outcome :=
  let color := arguments.color
  match arguments.command with
  | .probe => withClient arguments.connection fun client => some (runProbe host color client)
  | .status => withClient arguments.connection fun client => some (runStatus host color client)
  | .count expression => withClient arguments.connection fun client =>
    some (runCount host color client (Query.ofText (expression.getD "")))
  | .exportEvents expression mode encoding maxEvents =>
    withClient arguments.connection fun client =>
      runExport host client { query := Query.ofText (expression.getD ""), mode, encoding, maxEvents }
  | .analyze => runAnalyze host color arguments.connection input
  | .version => some { stdout := Outcome.document color versionJson }
  -- Completions are written by the shell's own package, not by this library.
  | .completion _ => some {}

/-- What is told where a command line is not carried out. -/
def stopped (environment : Environment) : Stop → Outcome
  | .help level long => { stdout := Help.page environment level long }
  | .version => { stdout := "tenzir-client " ++ versionText ++ "\n" }
  | .nothing level => { status := 2, stderr := Help.page environment level false }
  | .fault level fault => Outcome.failed (fault.toError level)

/-- Whether a command line is carried out with the input. -/
def readsInput (environment : Environment) (words : List String) : Bool :=
  match parse environment words with
  | .ok arguments => arguments.command = .analyze
  | .error _ => false

/-- Carries out a command line on a host; nothing is told where it never ends. -/
def run (host : Host) (environment : Environment) (words : List String) (input : Bytes) :
    Option Outcome :=
  match parse environment words with
  | .ok arguments => dispatch host input arguments
  | .error stop => some (stopped environment stop)

end EngineClient.CommandLine
