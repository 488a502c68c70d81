import EngineClient.Decoder
import EngineClient.Engine.Script

/-! Exports: an engine is started at the first read, read to its end and never left running. -/

namespace EngineClient

/-- How far an export has come. -/
inductive Phase where
  /-- Nothing was read yet, and no engine was started. -/
  | idle
  /-- The engine's output is being read. -/
  | streaming (decoder : Decoder)
  /-- The output has ended, and the wait for the engine's end was given up. -/
  | leaving
  /-- The engine has ended as it should. -/
  | completed
  /-- The export was called off. -/
  | cancelled
  /-- The export has failed for a reason. -/
  | failed (kind : ErrorKind) (reason : String)

namespace Phase

/-- Whether the export can go on no more. -/
def isTerminal : Phase → Bool
  | .completed | .cancelled | .failed _ _ => true
  | _ => false

/-- The name of the phase. -/
def name : Phase → String
  | .idle => "Idle"
  -- To the outside an export goes on until its engine's end is known.
  | .streaming _ | .leaving => "Streaming"
  | .completed => "Completed"
  | .cancelled => "Cancelled"
  | .failed kind _ => "Failed(" ++ kind.name ++ ")"

end Phase

/-- An export. -/
structure Session where
  /-- What the engine does once it is started. -/
  engine : Engine
  /-- The command line of the export. -/
  invocation : Invocation
  /-- What is exported. -/
  request : ExportRequest
  /-- How many milliseconds an engine that is told to end may go on. -/
  grace : Nat
  /-- How far the export has come. -/
  phase : Phase := .idle
  /-- How many events were handed out, by a counter that starts again behind its greatest number. -/
  delivered : UInt64 := 0
  /-- The calls made on the engine, in order. -/
  calls : List EngineCall := []

namespace Session

/-- The number of the engine's process while its output is being read. -/
def pid? (session : Session) : Option Nat :=
  match session.phase with
  | .streaming _ => session.engine.pid
  | _ => none

/-- How many milliseconds reading has waited so far. -/
def now (session : Session) : Nat :=
  match session.phase with
  | .streaming decoder => decoder.source.waited
  | _ => 0

/-- The session after one more call on its engine. -/
def called (session : Session) (call : EngineCall) : Session :=
  { session with calls := session.calls ++ [call] }

/-- The session when it has failed. -/
def fail (session : Session) (error : Error) : Session :=
  { session with phase := .failed error.kind error.display }

/-- What is answered once the export was called off. -/
def cancelledError (session : Session) : Error :=
  { kind := .cancelled, message := some "export was cancelled"
    input := some session.invocation.display }

/-- What is answered once the export has failed. -/
def failedError (session : Session) (kind : ErrorKind) (reason : String) : Error :=
  { kind, message := some ("export already failed: " ++ reason)
    input := some session.invocation.display }

/-- Starts the engine. -/
def start (session : Session) : Except Error Decoder × Session :=
  let session := session.called (.spawn session.invocation.display)
  -- The call is noted even where it fails.
  match session.engine.spawnError with
  | some error => (.error error, session.fail error)
  | none =>
    let decoder := Decoder.ofSource session.request.encoding { events := session.engine.output }
    (.ok decoder, { session with phase := .streaming decoder })

/-- Finds the output to read from, if there is still one; the first time the engine is started. -/
def ready (session : Session) : Except Error (Option Decoder) × Session :=
  match session.phase with
  | .idle => (session.start.1.map some, session.start.2)
  | .streaming decoder => (.ok (some decoder), session)
  -- An end that was not waited for is no failure; it is answered like one that was.
  | .leaving | .completed => (.ok none, session)
  | .cancelled => (.error session.cancelledError, session)
  | .failed kind reason => (.error (session.failedError kind reason), session)

/-- The failure of an export that must not end by itself. -/
def endedError (session : Session) (stderr : String) : Error :=
  let error : Error :=
    { kind := .execution, input := some session.invocation.display
      message := some ("engine ended a " ++ session.request.mode.name ++ " export") }
  error.withStderr stderr

/-- Whether an export may end by itself: it covers stored events only, or a number of them. -/
def mayEnd (request : ExportRequest) : Bool :=
  request.mode.isFinite || request.maxEvents.isSome

/-- What the engine's end means for the export. -/
def settle (session : Session) : Except Error Unit :=
  match session.engine.exit with
  | .error error => .error error
  | .ok report =>
    match report.check session.invocation with
    | .error error => .error error
    -- A live export that ends without an error has ended too early all the same.
    | .ok () => if mayEnd session.request then .ok () else .error (session.endedError report.stderr)

/-- Ends the export with the engine's end, which has been waited for. -/
def finish (session : Session) : Except Error Unit × Session :=
  match session.settle with
  | .ok () => (.ok (), { session with phase := .completed })
  | .error error => (.error error, session.fail error)

/-- A failure with the engine's error output, unless it has one of its own. -/
def explain (error : Error) (terminated : Except Error ExitReport) : Error :=
  match error.stderr, terminated with
  -- Where the engine could not be ended, there is no error output to add.
  | none, .ok report => error.withStderr report.stderr
  | _, _ => error

/-- Ends the export with a failure to read, and the engine with it. -/
def abort (session : Session) (error : Error) : Error × Session :=
  let error := explain error session.engine.terminated
  (error, (session.called (.terminate session.grace)).fail error)

/-- What an attempt to read brings. -/
inductive Attempt (α : Type) where
  /-- An answer. -/
  | answered (answer : Except Error α) (session : Session)
  /-- No answer in time. -/
  | late (session : Session)

/-- Whether a time is no later than a limit, if there is one. -/
def inTime (limit : Option Nat) (time : Nat) : Bool :=
  match limit with
  | some limit => time ≤ limit
  | none => true

/-- Waits for the engine's end when its output has ended. -/
def leave {α : Type} (limit : Option Nat) (time : Nat) (session : Session) :
    Attempt (Option α) :=
  let session := session.called .wait
  if inTime limit (time + session.engine.exitDelay) then
    .answered (session.finish.1.map fun _ => none) session.finish.2
  else .late { session with phase := .leaving }

/-- Reads from an output, and counts what is handed out. -/
def readFrom {α : Type} (read : Decoder → Decoder.Answer α) (count : α → UInt64)
    (limit : Option Nat) (decoder : Decoder) (session : Session) : Attempt (Option α) :=
  match read decoder with
  | none => .late session
  | some (answer, decoder) =>
    -- What comes too late is thrown away, and the reader stays where it was.
    let time := decoder.source.waited
    if inTime limit time then
      match answer with
      | .ok (some item) =>
        .answered (.ok (some item))
          { session with phase := .streaming decoder, delivered := session.delivered + count item }
      | .ok none => session.leave limit time
      | .error error => .answered (.error (session.abort error).1) (session.abort error).2
    else .late session

/-- Reads with a limit on the time. -/
def attempt {α : Type} (read : Decoder → Decoder.Answer α) (count : α → UInt64)
    (limit : Option Nat) (session : Session) : Attempt (Option α) :=
  match session.ready with
  | (.error error, session) => .answered (.error error) session
  | (.ok none, session) => .answered (.ok none) session
  | (.ok (some decoder), session) => session.readFrom read count limit decoder

/-- What is left to be read: bytes first, and rows of the last batch second. -/
def remaining (session : Session) : Nat × Nat :=
  match session.phase with
  | .idle => (Source.eventsSize session.engine.output, 0)
  | .streaming decoder => decoder.remaining
  | _ => (0, 0)

/-- Finding the output takes nothing from it. -/
theorem ready_remaining {session after : Session} {decoder : Decoder}
    (found : session.ready = (.ok (some decoder), after)) :
    decoder.remaining = session.remaining := by
  -- The reader is a fresh one on the whole output, or the one that was held.
  simp only [ready] at found
  split at found
  · rename_i phase
    simp only [start, called] at found
    split at found
    · simp [Except.map] at found
    · simp only [Except.map, Prod.mk.injEq, Except.ok.injEq, Option.some.injEq] at found
      obtain ⟨rfl, _⟩ := found
      simp [Decoder.ofSource_remaining, remaining, phase]
  · rename_i held phase
    simp only [Prod.mk.injEq, Except.ok.injEq, Option.some.injEq] at found
    obtain ⟨rfl, _⟩ := found
    simp [remaining, phase]
  all_goals simp at found

/-- An attempt that brings something leaves less to be read. -/
theorem attempt_remaining {α : Type} {read : Decoder → Decoder.Answer α} {count : α → UInt64}
    {limit : Option Nat} {session after : Session} {item : α} (consumes : Decoder.Consumes read)
    (ran : session.attempt read count limit = .answered (.ok (some item)) after) :
    Arrow.Batches.Shorter after.remaining session.remaining := by
  -- Only a reading that succeeds brings something, and what it leaves is kept.
  simp only [attempt] at ran
  split at ran
  · simp at ran
  · simp at ran
  · rename_i decoder middle found
    rw [← ready_remaining found]
    simp only [readFrom] at ran
    split at ran
    · simp at ran
    · rename_i answer rest answered
      split at ran
      · split at ran
        · simp only [Attempt.answered.injEq, Except.ok.injEq, Option.some.injEq] at ran
          obtain ⟨rfl, rfl⟩ := ran
          exact consumes _ _ _ answered
        · simp only [leave] at ran
          split at ran
          · simp only [Attempt.answered.injEq, Except.map] at ran
            obtain ⟨absurd, _⟩ := ran
            split at absurd <;> simp at absurd
          · simp at ran
        · simp at ran
      · simp at ran

variable [Platform]

/-- Reads the next event. -/
def attemptRecord (limit : Option Nat) (session : Session) : Attempt (Option Record) :=
  session.attempt Decoder.nextRecord (fun _ => 1) limit

/-- Reads the next batch; only Arrow exports have batches. -/
def attemptBatch (limit : Option Nat) (session : Session) :
    Attempt (Option Arrow.NamedBatch) :=
  match session.request.encoding with
  | .json => .answered (.error Decoder.noBatches) session
  | .arrow => session.attempt Decoder.nextBatch Arrow.NamedBatch.numRows limit

/-- The answer of an attempt that has one. -/
def Attempt.answer? {α : Type} : Attempt α → Option (Except Error α × Session)
  | .answered answer session => some (answer, session)
  | .late _ => none

/-- Reads the next event, however long it takes. -/
def nextRecord (session : Session) : Option (Except Error (Option Record) × Session) :=
  (session.attemptRecord none).answer?

/-- Reads the next batch, however long it takes. -/
def nextBatch (session : Session) : Option (Except Error (Option Arrow.NamedBatch) × Session) :=
  (session.attemptBatch none).answer?

/-- Calls the export off, and ends its engine if it is running. -/
def cancel (session : Session) : Except Error Unit × Session :=
  if session.phase.isTerminal then (.ok (), session)
  else
    let ended := { session with phase := .cancelled }
    match session.phase with
    | .streaming _ =>
      (session.engine.terminated.map fun _ => (), ended.called (.terminate session.grace))
    -- No engine runs, or it has been waited for already.
    | _ => (.ok (), ended)

/-- Lets go of the export, and ends its engine if it is running. -/
def release (session : Session) : Session :=
  match session.phase with
  | .streaming _ => session.called (.terminate session.grace)
  | _ => session

/-- An event that was handed out leaves less to be read. -/
theorem attemptRecord_remaining {limit : Option Nat} {session after : Session} {record : Record}
    (ran : session.attemptRecord limit = .answered (.ok (some record)) after) :
    Arrow.Batches.Shorter after.remaining session.remaining :=
  attempt_remaining Decoder.nextRecord_consumes ran

/-- A batch that was handed out leaves less to be read. -/
theorem attemptBatch_remaining {limit : Option Nat} {session after : Session}
    {batch : Arrow.NamedBatch}
    (ran : session.attemptBatch limit = .answered (.ok (some batch)) after) :
    Arrow.Batches.Shorter after.remaining session.remaining := by
  simp only [attemptBatch] at ran
  split at ran
  · simp at ran
  · exact attempt_remaining Decoder.nextBatch_consumes ran

end Session

end EngineClient
