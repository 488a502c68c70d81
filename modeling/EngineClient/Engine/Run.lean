import EngineClient.Engine.Source

/-! Short commands: an engine is run to its end, and its whole output is the answer. -/

namespace EngineClient.Engine

/-- What a short command brings, with the calls made on the engine in order. -/
structure RunResult where
  /-- The whole output, or why there is none. -/
  answer : Except Error Bytes
  /-- The calls made on the engine. -/
  calls : List EngineCall

/-- The failure of a command that did not end in time. -/
def timeoutError (invocation : Invocation) (timeout : Nat) : Error :=
  { kind := .timeout, input := some invocation.display
    message := some ("engine did not finish within " ++ toString timeout ++ " ms") }

/-- Runs a command to its end within `timeout` milliseconds, or terminates it. -/
def run (engine : Engine) (invocation : Invocation) (timeout grace : Nat) : RunResult :=
  let spawn := EngineCall.spawn invocation.display
  let terminate := EngineCall.terminate grace
  let late := Except.error (timeoutError invocation timeout)
  match engine.spawnError with
  | some error => ⟨.error error, [spawn]⟩
  | none =>
    match ({ events := engine.output } : Source).drain with
    | none => ⟨late, [spawn, terminate]⟩
    | some (read, source) =>
      -- What happens after the timeout is never seen.
      if timeout < source.waited then ⟨late, [spawn, terminate]⟩
      else match read with
        | .error cause => ⟨.error (.ofRead cause), [spawn, terminate]⟩
        | .ok output =>
          if timeout < source.waited + engine.exitDelay then ⟨late, [spawn, .wait, terminate]⟩
          else match engine.exit with
            | .error error => ⟨.error error, [spawn, .wait, terminate]⟩
            | .ok report => ⟨(report.check invocation).map fun _ => output, [spawn, .wait]⟩

end EngineClient.Engine
