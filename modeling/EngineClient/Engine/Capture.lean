import EngineClient.Bytes

/-! The error output of an engine is read to its end, and its beginning is kept. -/

namespace EngineClient

/-- What one read of an error output brings. -/
inductive StderrRead where
  /-- Some bytes. -/
  | chunk (bytes : Bytes)
  /-- A failure, behind which no more is read. -/
  | failure
deriving DecidableEq, Repr

/-- What was kept of an error output. -/
structure Capture where
  /-- The bytes that are kept. -/
  held : Bytes := []
  /-- The reads that were not made. -/
  unread : List StderrRead := []
deriving DecidableEq, Repr

namespace Capture

/-- How many bytes are kept. -/
def limit : Nat := 64 * 1024

/-- The bytes kept after one more chunk. -/
def keep (held chunk : Bytes) : Bytes :=
  held ++ chunk.take (limit - held.length)

/-- Reads on to the end or the first failure, also when there is no more room. -/
def readFrom (held : Bytes) : List StderrRead → Capture
  | [] => { held }
  | .chunk bytes :: rest => readFrom (keep held bytes) rest
  | .failure :: rest => { held, unread := rest }

/-- Reads an error output. -/
def ofReads (reads : List StderrRead) : Capture :=
  readFrom [] reads

end Capture

end EngineClient
