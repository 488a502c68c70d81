import EngineClient.Dialect
import EngineClient.Host
import EngineClient.Host.Programs
import EngineClient.Keyed

/-! Hosts with a control program: it does for each subcommand what it is told to do. -/

namespace EngineClient

/-- What a control program does for a subcommand. -/
structure Behavior where
  /-- What it writes to its error output first. -/
  stderr : Bytes := []
  /-- What it writes to its output then. -/
  stdout : Bytes := []
  /-- The exit code. -/
  code : Int := 0
  /-- Whether it does nothing for half a minute before it ends. -/
  hangs : Bool := false
  /-- Whether a signal ends it. -/
  killed : Bool := false
deriving DecidableEq, Repr

namespace Behavior

/-- How many milliseconds a program that hangs waits before it ends. -/
def hangTime : Nat := 30000

/-- The process that does it. -/
def toProcess (behavior : Behavior) : Process :=
  { deeds := [.errorOutput behavior.stderr, .output behavior.stdout]
      ++ if behavior.hangs then [.pause hangTime] else []
    code := if behavior.killed then none else some behavior.code }

/-- What is done for a subcommand that the program does not know. -/
def unknown (name : String) : Behavior :=
  { stderr := Utf8.encode ("unknown command: " ++ name ++ "\n"), code := 1 }

end Behavior

namespace Host

/-- The subcommand among some arguments: the first that is no option. -/
def subcommandOf (args : List String) : String :=
  (args.find? fun text => !text.startsWith "--").getD ""

/-- What the control program does with some arguments. -/
def behaviorOf (behaviors : Keyed Behavior) (args : List String) : Behavior :=
  let name := subcommandOf args
  (behaviors.get? name).getD (.unknown name)

/-- The program of a name on a host with a control program. -/
def findControl (program : String) : Except StartFault String :=
  if program = Dialect.defaultProgram then .ok program else Files.find program

/-- A host that has a control program, and no other engine program. -/
def control (behaviors : Keyed Behavior) : Host := fun invocation =>
  match Files.start invocation findControl with
  | .error fault => { spawnError := some (fault.toError invocation) }
  | .ok name =>
    if name = Dialect.defaultProgram then (behaviorOf behaviors invocation.args).toProcess.toEngine
    else (Programs.process invocation name).toEngine

end Host

end EngineClient
