import EngineClient.Error
import EngineClient.Invocation

/-! Why a program could not be started, and how that is reported. -/

namespace EngineClient

/-- Why a program could not be started. -/
inductive StartFault where
  /-- There is no such program. -/
  | notFound
  /-- It is no program, or one that may not be run. -/
  | denied
  /-- A part of its path that should be a directory is none. -/
  | notDirectory
  /-- A part of its path has too long a name. -/
  | nameTooLong
  /-- An argument is too long. -/
  | argumentTooLong
  /-- The command line holds a zero character. -/
  | holdsNul
deriving DecidableEq, Repr

namespace StartFault

/-- The fault in the words of the system. -/
def cause : StartFault → String
  | .notFound => "No such file or directory (os error 2)"
  | .denied => "Permission denied (os error 13)"
  | .notDirectory => "Not a directory (os error 20)"
  | .nameTooLong => "File name too long (os error 36)"
  | .argumentTooLong => "Argument list too long (os error 7)"
  | .holdsNul => "nul byte found in provided data"

/-- The fault in words that name the program. -/
def message (program : String) : StartFault → String
  | .notFound => "engine program `" ++ program ++ "` not found"
  | .denied => "permission denied executing `" ++ program ++ "`"
  | _ => "failed to spawn `" ++ program ++ "`"

/-- What to try. -/
def hint? : StartFault → Option String
  | .notFound => some "Install tenzir-ctl or point --program at it."
  | .denied => some "Check the executable bit and ownership of the engine program."
  | _ => none

/-- The failure to start a command line. -/
def toError (invocation : Invocation) (fault : StartFault) : Error :=
  { kind := .unreachable, message := some (fault.message invocation.program), hint := fault.hint?
    input := some invocation.display, causes := [fault.cause] }

end StartFault

end EngineClient
