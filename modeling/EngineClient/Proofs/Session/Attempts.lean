import EngineClient.Session.Collect

/-! All that an attempt to read from an export can come to. -/

namespace EngineClient.Session

/-- An attempt answers by the answer that it has. -/
theorem Attempt.answer?_eq_some {α : Type} {attempt : Attempt α} {answer : Except Error α}
    {after : Session} :
    attempt.answer? = some (answer, after) ↔ attempt = .answered answer after := by
  cases attempt with
  | answered other session => simp [Attempt.answer?]
  | late session => simp [Attempt.answer?]

section

variable {α : Type} (read : Decoder → Decoder.Answer α) (count : α → UInt64) (limit : Option Nat)

/-- What reading from an output can come to, by what the reader answers. -/
inductive Reads (decoder : Decoder) (session : Session) : Attempt (Option α) → Prop where
  /-- Nothing comes, or not in time. -/
  | nothing : Reads decoder session (.late session)
  /-- Something is handed out. -/
  | item {item : α} {rest : Decoder} (brought : read decoder = some (.ok (some item), rest)) :
    Reads decoder session (.answered (.ok (some item))
      { session with phase := .streaming rest, delivered := session.delivered + count item })
  /-- The output has ended, and the wait for the engine's end is given up. -/
  | left {rest : Decoder} (ended : read decoder = some (.ok none, rest))
    (punctual : inTime limit rest.source.waited = true)
    (late : inTime limit (rest.source.waited + session.engine.exitDelay) = false) :
    Reads decoder session (.late { session.called .wait with phase := .leaving })
  /-- The engine has ended as it should. -/
  | completed {rest : Decoder} (ended : read decoder = some (.ok none, rest))
    (settled : session.settle = .ok ()) :
    Reads decoder session (.answered (.ok none) { session.called .wait with phase := .completed })
  /-- The engine has not ended as it should. -/
  | refused {rest : Decoder} {error : Error} (ended : read decoder = some (.ok none, rest))
    (settled : session.settle = .error error) :
    Reads decoder session (.answered (.error error) ((session.called .wait).fail error))
  /-- The output cannot be read, and the engine is told to end. -/
  | broken {rest : Decoder} {error : Error} (failed : read decoder = some (.error error, rest)) :
    Reads decoder session (.answered (.error (explain error session.engine.terminated))
      ((session.called (.terminate session.grace)).fail
        (explain error session.engine.terminated)))

/-- What an attempt to read can come to, by how far the export has come. -/
inductive Attempts (session : Session) : Attempt (Option α) → Prop where
  /-- The engine cannot be started. -/
  | unstarted {error : Error} (idle : session.phase = .idle)
    (spawned : session.engine.spawnError = some error) :
    Attempts session (.answered (.error error)
      ((session.called (.spawn session.invocation.display)).fail error))
  /-- The engine is started, and its output read. -/
  | started {decoder : Decoder} {result : Attempt (Option α)} (idle : session.phase = .idle)
    (spawned : session.engine.spawnError = none)
    (fresh : decoder = Decoder.ofSource session.request.encoding { events := session.engine.output })
    (reads : Reads read count limit decoder
      { session.called (.spawn session.invocation.display) with phase := .streaming decoder }
      result) :
    Attempts session result
  /-- The output is read on. -/
  | reading {decoder : Decoder} {result : Attempt (Option α)}
    (streaming : session.phase = .streaming decoder)
    (reads : Reads read count limit decoder session result) : Attempts session result
  /-- The export is over. -/
  | ended (past : session.phase = .leaving ∨ session.phase = .completed) :
    Attempts session (.answered (.ok none) session)
  /-- The export was called off. -/
  | cancelled (off : session.phase = .cancelled) :
    Attempts session (.answered (.error session.cancelledError) session)
  /-- The export has failed. -/
  | failed {kind : ErrorKind} {reason : String} (before : session.phase = .failed kind reason) :
    Attempts session (.answered (.error (session.failedError kind reason)) session)

variable {read count limit}

/-- Waiting for the engine's end comes to one of the ways in which a reading ends. -/
theorem leave_reads {decoder rest : Decoder} (ended : read decoder = some (.ok none, rest))
    (punctual : inTime limit rest.source.waited = true) (session : Session) :
    Reads read count limit decoder session (session.leave limit rest.source.waited) := by
  -- In time the report settles what the end means; too late it is only because of the wait.
  simp only [leave]
  have engine : (session.called .wait).engine = session.engine := rfl
  rw [engine]
  -- The wait comes in time as a whole or is given up.
  cases late : inTime limit (rest.source.waited + session.engine.exitDelay) with
  | true =>
    have same : (session.called .wait).settle = session.settle := rfl
    rw [if_pos rfl, finish, same]
    cases settled : session.settle with
    | ok nothing => exact .completed ended settled
    | error error => exact .refused ended settled
  | false => exact .left ended punctual late

/-- Reading from an output comes to nothing else. -/
theorem readFrom_reads (decoder : Decoder) (session : Session) :
    Reads read count limit decoder session (session.readFrom read count limit decoder) := by
  -- What comes too late is as good as nothing, and only what comes in time is told apart.
  unfold readFrom
  cases ran : read decoder with
  | none => exact .nothing
  | some answered =>
    obtain ⟨answer, rest⟩ := answered
    by_cases punctual : inTime limit rest.source.waited
    · simp only [if_pos punctual]
      rcases answer with error | (_ | item)
      · exact .broken ran
      · exact leave_reads ran punctual session
      · exact .item ran
    · simp only [if_neg punctual]
      exact .nothing

/-- Without a limit, a reading comes to what the reader answers. -/
theorem readFrom_unlimited {decoder rest : Decoder} {answer : Except Error (Option α)}
    (ran : read decoder = some (answer, rest)) (session : Session) :
    session.readFrom read count none decoder = match answer with
      | .ok (some item) => .answered (.ok (some item))
        { session with phase := .streaming rest, delivered := session.delivered + count item }
      | .ok none => .answered ((session.called .wait).finish.1.map fun _ => none)
        (session.called .wait).finish.2
      | .error error => .answered (.error (session.abort error).1) (session.abort error).2 := by
  -- Every time is early enough, also for the wait.
  simp only [readFrom, ran, inTime, if_true]
  rcases answer with error | (_ | item) <;> rfl

/-- The first attempt fails where the engine cannot be started. -/
theorem attempt_unstarted {session : Session} {error : Error} (idle : session.phase = .idle)
    (spawned : session.engine.spawnError = some error) :
    session.attempt read count limit = .answered (.error error)
      ((session.called (.spawn session.invocation.display)).fail error) := by
  -- Noting the call leaves the engine as it is, so it still cannot be started.
  have same : (session.called (.spawn session.invocation.display)).engine = session.engine := rfl
  simp only [attempt, ready, idle, start, same, spawned, Except.map]

/-- The first attempt reads from the output of the engine that it has started. -/
theorem attempt_started {session : Session} {decoder : Decoder} (idle : session.phase = .idle)
    (spawned : session.engine.spawnError = none)
    (fresh : decoder = Decoder.ofSource session.request.encoding { events := session.engine.output }) :
    session.attempt read count limit = readFrom read count limit decoder
      { session.called (.spawn session.invocation.display) with phase := .streaming decoder } := by
  -- Behind the start the attempt goes on as one of an export that is being read from.
  have same : (session.called (.spawn session.invocation.display)).engine = session.engine := rfl
  simp only [attempt, ready, idle, start, same, spawned, fresh, Except.map]
  rfl

/-- An attempt of an export that is being read from reads on. -/
theorem attempt_streaming {session : Session} {decoder : Decoder}
    (streaming : session.phase = .streaming decoder) :
    session.attempt read count limit = session.readFrom read count limit decoder := by
  simp only [attempt, ready, streaming]

/-- An attempt to read comes to nothing else. -/
theorem attempt_attempts (session : Session) :
    Attempts read count limit session (session.attempt read count limit) := by
  -- Only an export that is idle or being read from gets as far as its output.
  cases phase : session.phase with
  | idle =>
    -- An idle export has its engine started first, which may fail.
    cases spawned : session.engine.spawnError with
    | some error =>
      rw [attempt_unstarted phase spawned]
      exact .unstarted phase spawned
    | none =>
      rw [attempt_started phase spawned rfl]
      exact .started phase spawned rfl (readFrom_reads _ _)
  | streaming decoder =>
    rw [attempt_streaming phase]
    exact .reading phase (readFrom_reads decoder session)
  | leaving =>
    simp only [attempt, ready, phase]
    exact .ended (.inl phase)
  | completed =>
    simp only [attempt, ready, phase]
    exact .ended (.inr phase)
  | cancelled =>
    simp only [attempt, ready, phase]
    exact .cancelled phase
  | failed kind reason =>
    simp only [attempt, ready, phase]
    exact .failed phase

/-- Waiting for the engine's end in time answers as waiting as long as it takes. -/
theorem leave_answered {α : Type} {limit : Option Nat} {time : Nat} {session after : Session}
    {answer : Except Error (Option α)} (ran : session.leave limit time = .answered answer after) :
    session.leave none time = .answered answer after := by
  simp only [leave] at ran ⊢
  split at ran
  · exact ran
  · cases ran

/-- An attempt that answers in time answers as one that takes as long as it takes. -/
theorem attempt_answered {session after : Session} {answer : Except Error (Option α)}
    (ran : session.attempt read count limit = .answered answer after) :
    session.attempt read count none = .answered answer after := by
  unfold attempt at ran ⊢
  split at ran
  -- Answers that need no reading do not look at the time.
  · exact ran
  · exact ran
  · -- The reader brings the same, and only what comes too late is treated otherwise.
    rename_i decoder middle found
    unfold readFrom at ran ⊢
    cases brought : read decoder with
    | none => simp [brought] at ran
    | some answered =>
      obtain ⟨item, rest⟩ := answered
      cases punctual : inTime limit rest.source.waited with
      | false => simp [brought, punctual] at ran
      | true =>
        simp only [brought, punctual, if_true] at ran
        have always : inTime none rest.source.waited = true := rfl
        simp only [always, if_true]
        -- The end alone is followed by a wait, which comes in time as well.
        rcases item with error | (_ | item)
        · exact ran
        · exact leave_answered ran
        · exact ran

end

variable [Platform]

/-- An attempt to read a batch is one for an Arrow export only. -/
theorem attemptBatch_eq {session : Session} (arrow : session.request.encoding = .arrow)
    (limit : Option Nat) :
    session.attemptBatch limit
      = session.attempt Decoder.nextBatch Arrow.NamedBatch.numRows limit := by
  simp only [attemptBatch, arrow]

section

variable (limit : Option Nat) (maxRows : Option UInt64)

/-- What gathering batches can come to, by the attempts that it makes. -/
inductive Gathers : UInt64 → Tables → Session → Attempt Tables → Prop where
  /-- As many rows are there as are wanted. -/
  | reached {rows : UInt64} {tables : Tables} {session : Session}
    (plenty : enough maxRows rows = true) :
    Gathers rows tables session
      (.answered (session.stopWith tables).1 (session.stopWith tables).2)
  /-- The time is up. -/
  | stopped {rows : UInt64} {tables : Tables} {session after : Session}
    (ran : session.attemptBatch limit = .late after) (limited : limit.isSome = true) :
    Gathers rows tables session (.answered (after.stopWith tables).1 (after.stopWith tables).2)
  /-- Nothing comes, and nothing ends the wait. -/
  | stuck {rows : UInt64} {tables : Tables} {session after : Session}
    (ran : session.attemptBatch limit = .late after) (unlimited : limit.isSome = false) :
    Gathers rows tables session (.late after)
  /-- A reading fails. -/
  | failed {rows : UInt64} {tables : Tables} {session after : Session} {error : Error}
    (ran : session.attemptBatch limit = .answered (.error error) after) :
    Gathers rows tables session (.answered (.error error) after)
  /-- The export has ended. -/
  | ended {rows : UInt64} {tables : Tables} {session after : Session}
    (ran : session.attemptBatch limit = .answered (.ok none) after) :
    Gathers rows tables session (.answered (.ok tables) after)
  /-- A batch is added, and gathering goes on. -/
  | batch {rows : UInt64} {tables : Tables} {session after : Session} {batch : Arrow.NamedBatch}
    {result : Attempt Tables}
    (ran : session.attemptBatch limit = .answered (.ok (some batch)) after)
    (rest : Gathers (rows + (trimBatch maxRows rows batch).numRows)
      (tables.push (trimBatch maxRows rows batch)) after result) :
    Gathers rows tables session result

variable {limit maxRows}

/-- Gathering comes to nothing else. -/
theorem gather_gathers (rows : UInt64) (tables : Tables) (session : Session) :
    Gathers limit maxRows rows tables session (session.gather limit maxRows rows tables) := by
  -- The induction is on what is left to be read, of which every batch takes a part.
  induction sized : session.remaining using (Prod.lex Nat.lt_wfRel Nat.lt_wfRel).wf.induction
    generalizing rows tables session with
  | h size ih =>
    unfold gather
    split
    -- Every branch of the loop is one way of gathering, and only a batch leads back into the loop.
    · rename_i plenty
      exact .reached plenty
    · split <;> rename_i ran
      · split
        · rename_i limited
          exact .stopped ran limited
        · rename_i unlimited
          exact .stuck ran (Bool.not_eq_true _ ▸ unlimited)
      · exact .failed ran
      · exact .ended ran
      · exact .batch ran (ih _ (sized ▸ Prod.lex_def.mpr (attemptBatch_remaining ran)) _ _ _ rfl)

end

/-- Gathering tables breaks off, is turned down without touching the export, or gathers batches from
nothing on. -/
theorem attemptCollect_cases (bound : CollectBound) (session : Session) :
    session.attemptCollect bound = none ∨ ∃ attempt, session.attemptCollect bound = some attempt ∧
      ((∃ error, attempt = .answered (.error error) session) ∨
        Gathers (session.deadline bound) bound.maxRows 0 {} session attempt) := by
  unfold attemptCollect
  -- The checks stand one behind the other, those that turn the call down first.
  split
  · exact .inr ⟨_, rfl, .inl ⟨_, rfl⟩⟩
  · split
    · exact .inr ⟨_, rfl, .inl ⟨_, rfl⟩⟩
    · split
      · exact .inr ⟨_, rfl, .inr (gather_gathers 0 {} session)⟩
      · exact .inl rfl

end EngineClient.Session
