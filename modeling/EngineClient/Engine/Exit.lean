import EngineClient.Error
import EngineClient.Invocation

/-! How an engine ended, and what that means for the command it was started with. -/

namespace EngineClient

/-- How an engine ended. -/
structure ExitReport where
  /-- The exit code, or none where a signal ended the engine. -/
  code : Option Int
  /-- What the engine wrote to its error output. -/
  stderr : String
deriving DecidableEq, Repr

namespace ExitReport

/-- Whether the engine ended with code zero. -/
def isSuccess (report : ExitReport) : Bool :=
  report.code = some 0

/-- The phrases with which engines say that no node answered. -/
def connectPhrases : List String :=
  ["failed to connect", "couldn't connect", "could not connect", "unable to connect",
    "connection refused"]

/-- Whether an error output says, in any letter case, that no node answered. -/
def tellsConnectFailure (stderr : String) : Bool :=
  let text := stderr.toList.map Char.toLower
  connectPhrases.any fun phrase => Text.hasPart text phrase.toList

/-- The end of the engine in words. -/
def describe : Option Int → String
  | some code => "engine exited with status " ++ toString code
  | none => "engine terminated by signal"

/-- The failure that an unsuccessful end is, if it is one. -/
def check (report : ExitReport) (invocation : Invocation) : Except Error Unit :=
  if report.isSuccess then .ok ()
  else
    -- Engines use no exit code of their own for this, so their words have to do.
    let kind := if tellsConnectFailure report.stderr then .unreachable else .execution
    let error : Error :=
      { kind, message := some (describe report.code), exitCode := report.code
        input := some invocation.display }
    .error (error.withStderr report.stderr)

end ExitReport

end EngineClient
