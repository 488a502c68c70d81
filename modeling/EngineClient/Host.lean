import EngineClient.Engine.Script

/-! Where engines come from: a host starts a program for every command line. -/

namespace EngineClient

/-- What becomes of each command line that is started. -/
abbrev Host := Invocation → Engine

/-- Whether the host has a program for a command line, and can start it. -/
def Host.starts (host : Host) (invocation : Invocation) : Bool :=
  (host invocation).spawnError.isNone

end EngineClient
