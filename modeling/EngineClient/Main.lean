import EngineClient.CommandLine.Run
import EngineClient.Host.Programs

/-! The program: it reads its command line, environment and input, and prints the outcome. -/

open EngineClient
open scoped EngineClient.Platform

/-- Reads a stream to its end. -/
partial def readStream (stream : IO.FS.Stream) (read : ByteArray) : IO ByteArray := do
  let chunk ← stream.read 65536
  if chunk.isEmpty then return read else readStream stream (read ++ chunk)

/-- Waits for ever, as an export does that never ends. -/
partial def waitForever : IO UInt32 := do
  IO.sleep 1000
  waitForever

/-- Carries out the command line on a host that has no engine program. -/
def main (words : List String) : IO UInt32 := do
  let environment : CommandLine.Environment :=
    { endpoint := ← IO.getEnv "TENZIR_ENDPOINT", program := ← IO.getEnv "TENZIR_CTL" }
  let input ←
    if CommandLine.readsInput environment words then readStream (← IO.getStdin) ByteArray.empty
    else pure ByteArray.empty
  match CommandLine.run (Programs.engine 3000) environment words input.toList with
  | some outcome =>
    IO.print outcome.stdout
    IO.eprint outcome.stderr
    return UInt32.ofNat outcome.status
  | none => waitForever
