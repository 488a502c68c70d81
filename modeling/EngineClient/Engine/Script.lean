import EngineClient.Engine.Exit

/-! Engines as scripts: all that an engine does, and the calls that are made on it. -/

namespace EngineClient

/-- One thing that happens on an engine's output. -/
inductive OutputEvent where
  /-- Some bytes arrive. -/
  | data (bytes : Bytes)
  /-- Nothing arrives for a number of milliseconds. -/
  | pause (milliseconds : Nat)
  /-- One read fails for a cause; later reads go on behind it. -/
  | failure (cause : String)
  /-- Nothing arrives any more, and the output does not end. -/
  | hang
deriving DecidableEq, Repr

/-- All that one engine does. -/
structure Engine where
  /-- The failure to start it at all, if that is what happens. -/
  spawnError : Option Error := none
  /-- What happens on its output, which ends behind the last event. -/
  output : List OutputEvent := []
  /-- What waiting for its end answers. -/
  exit : Except Error ExitReport := .ok ⟨some 0, ""⟩
  /-- How many milliseconds waiting for its end takes. -/
  exitDelay : Nat := 0
  /-- What terminating it answers. -/
  terminated : Except Error ExitReport := .ok ⟨none, ""⟩
  /-- Its process number, if it has one. -/
  pid : Option Nat := none

/-- A call that is made on an engine. -/
inductive EngineCall where
  /-- The engine is started with a command line. -/
  | spawn (commandLine : String)
  /-- Its end is waited for. -/
  | wait
  /-- It is told to end, and is killed after a number of milliseconds. -/
  | terminate (grace : Nat)
deriving DecidableEq, Repr

/-- The call in words. -/
def EngineCall.describe : EngineCall → String
  | .spawn commandLine => "spawn " ++ commandLine
  | .wait => "wait"
  | .terminate grace => "terminate " ++ toString grace

end EngineClient
