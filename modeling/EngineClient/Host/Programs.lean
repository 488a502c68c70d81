import EngineClient.Host.Shell

/-! The programs that every host has, as processes. -/

namespace EngineClient.Programs

/-- The process of a program; its input is empty. -/
def process (invocation : Invocation) (name : String) : Process :=
  if name = "sh" then Shell.process invocation.program invocation.args
  else
    let effect := Shell.utility name invocation.args []
    { deeds := effect.deeds, code := some (effect.code : Nat) }

/-- The engine that a command line of such a program is, told to end with a grace period. -/
def engine (grace : Nat) (invocation : Invocation) : Engine :=
  match Files.start invocation Files.find with
  | .error fault => { spawnError := some (fault.toError invocation) }
  | .ok name => (process invocation name).toEngine grace

end EngineClient.Programs
