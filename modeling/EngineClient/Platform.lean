import EngineClient.Arrow.Assembly

/-! What an export gets from the platform that it runs on. -/

namespace EngineClient

/-- The platform: the words in which its library for Arrow streams tells its failures, and its
clock. -/
class Platform where
  /-- Why metadata cannot be made sense of. -/
  metadataFault : Bytes → String
  /-- Why a stream that has come so far cannot go on with a frame, the nearest reason first. -/
  streamFaults : Arrow.Assembly → Bytes → List String
  /-- Why cells of a type have no plain text, the nearest reason first. -/
  displayFaults : Arrow.DataType → List String
  /-- Why batches do not line up, the nearest reason first. -/
  joinFaults : List Arrow.Batch → List String
  /-- The last instant that the clock can tell, in milliseconds since the start of an engine. -/
  lastInstant : Nat

namespace Platform

/-- A platform that tells no reasons, and whose clock counts seconds with sixty-three bits. -/
scoped instance plain : Platform where
  metadataFault _ := ""
  streamFaults _ _ := []
  displayFaults _ := []
  joinFaults _ := []
  lastInstant := (Nat.pow 2 63 - 1) * 1000

end Platform

end EngineClient
