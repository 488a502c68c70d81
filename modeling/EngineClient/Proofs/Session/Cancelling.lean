import EngineClient.Proofs.Session.Gathering
import EngineClient.Proofs.Session.Lifecycle
import EngineClient.Proofs.Session.Processes

/-! The one who cancels a stream is told nothing of an engine that could not be ended, which calling
its export off would have told. -/

namespace EngineClient.Session

/-- Whether the engine's output is being read. -/
def IsStreaming (session : Session) : Prop :=
  ∃ decoder, session.phase = .streaming decoder

section

variable {session : Session}

/-- Calling off an export whose output is being read tells the engine to end, and answers whether
that went well. -/
theorem cancel_streaming (streaming : session.IsStreaming) :
    session.cancel.1 = session.engine.terminated.map (fun _ => ()) ∧
      session.cancel.2.calls = session.calls ++ [.terminate session.grace] := by
  obtain ⟨decoder, phase⟩ := streaming
  simp [cancel, phase, Phase.isTerminal, called]

/-- Calling off any other export asks nothing of an engine, and goes well. -/
theorem cancel_quiet (quiet : ¬session.IsStreaming) :
    session.cancel.1 = .ok () ∧ session.cancel.2.calls = session.calls := by
  cases phase : session.phase with
  | streaming decoder => exact absurd ⟨decoder, phase⟩ quiet
  | _ => simp [cancel, phase, Phase.isTerminal]

/-- Calling off fails exactly where an output is being read whose engine cannot be ended, and for the
same reason. -/
theorem cancel_eq_error_iff {error : Error} :
    session.cancel.1 = .error error ↔
      session.IsStreaming ∧ session.engine.terminated = .error error := by
  -- Nothing can go wrong where no engine is told to end.
  by_cases streaming : session.IsStreaming
  · rw [(cancel_streaming streaming).1]
    cases session.engine.terminated <;> simp [Except.map, streaming]
  · rw [(cancel_quiet streaming).1]
    simp [streaming]

/-- An export that loses nothing when it is let go of is not being read. -/
theorem not_streaming_of_release (released : session.release = session) : ¬session.IsStreaming := by
  rintro ⟨decoder, phase⟩
  have calls := congrArg Session.calls released
  simp [release, phase, called] at calls

variable {α : Type} {read : Decoder → Decoder.Answer α} {count : α → UInt64} {limit : Option Nat}

/-- An attempt that comes to nothing in time has at most started the engine and waited for its end. -/
theorem late_keeps {after : Session} (ran : session.attempt read count limit = .late after) :
    after.engine = session.engine ∧ after.grace = session.grace ∧
      ∃ made, after.calls = session.calls ++ made ∧ ∀ grace, .terminate grace ∉ made := by
  have attempts : Attempts read count limit session (.late after) := ran ▸ attempt_attempts session
  -- Only an attempt that reads can be late.
  cases attempts with
  | started idle spawned opened reads => cases reads with
    | nothing => exact ⟨rfl, rfl, [.spawn session.invocation.display], rfl, by simp⟩
    | left ended punctual late =>
      exact ⟨rfl, rfl, [.spawn session.invocation.display, .wait], by simp [called], by simp⟩
  | reading streaming reads => cases reads with
    | nothing => exact ⟨rfl, rfl, [], (List.append_nil _).symm, by simp⟩
    | left ended punctual late => exact ⟨rfl, rfl, [.wait], rfl, by simp⟩

/-- Behind the wait for the engine's end no output is being read. -/
theorem leave_not_streaming (time : Nat) :
    ¬(session.leave limit time : Attempt (Option α)).session.IsStreaming := by
  rintro ⟨decoder, phase⟩
  simp only [leave] at phase
  split at phase
  · -- In time, the end of the engine is settled one way or the other.
    simp only [Attempt.session, finish] at phase
    split at phase <;> cases phase
  · cases phase

/-- Where reading leaves an output to be read on, it does so without waiting for anything, too. -/
theorem readFrom_streaming {decoder : Decoder} (streaming : session.IsStreaming)
    (going : (session.readFrom read count limit decoder).session.IsStreaming) :
    (session.readFrom read count (some 0) decoder).session.IsStreaming := by
  unfold readFrom at going ⊢
  cases brought : read decoder with
  | none => exact streaming
  | some answered =>
    obtain ⟨answer, rest⟩ := answered
    -- What is not there at once leaves the export as it was.
    cases now : inTime (some 0) rest.source.waited with
    | false =>
      simp only [now]
      exact streaming
    | true =>
      -- What is there at once is in time for any limit.
      have zero : rest.source.waited = 0 := by simpa [inTime] using now
      have punctual : inTime limit rest.source.waited = true := zero ▸ inTime_zero limit
      simp only [brought, punctual, now, if_true] at going ⊢
      rcases answer with error | (_ | item)
      · obtain ⟨held, phase⟩ := going
        cases phase
      · exact absurd going (leave_not_streaming _)
      · exact ⟨rest, rfl⟩

/-- Where an attempt to read leaves an output to be read on, one that waits for nothing does, too. -/
theorem attempt_streaming_at_once (going : (session.attempt read count limit).session.IsStreaming) :
    (session.attempt read count (some 0)).session.IsStreaming := by
  -- Only an export that is idle or being read from gets as far as its output.
  cases phase : session.phase with
  | idle =>
    cases spawned : session.engine.spawnError with
    | some error =>
      rw [attempt_unstarted phase spawned] at going ⊢
      exact going
    | none =>
      rw [attempt_started phase spawned rfl] at going ⊢
      exact readFrom_streaming ⟨_, rfl⟩ going
  | streaming decoder =>
    rw [attempt_streaming phase] at going ⊢
    exact readFrom_streaming ⟨decoder, phase⟩ going
  -- Behind its end an export answers without looking at the time.
  | _ =>
    simp only [attempt, ready, phase] at going ⊢
    exact going

/-- Behind an event there is an output to be read on. -/
theorem streaming_of_event [Platform] {after : Session} {record : Record}
    (ran : session.attemptRecord limit = .answered (.ok (some record)) after) :
    after.IsStreaming := by
  have attempts : Attempts Decoder.nextRecord (fun _ => 1) limit session
      (.answered (.ok (some record)) after) := ran ▸ attempt_attempts session
  exact attempts.item_streaming

/-- Where reading an event leaves an output to be read on, so does reading it without a wait. -/
theorem attemptRecord_at_once [Platform] {result : Attempt (Option Record)}
    (ran : session.attemptRecord limit = result) (going : result.session.IsStreaming) :
    (session.attemptRecord (some 0)).session.IsStreaming := by
  subst ran
  exact attempt_streaming_at_once going

end

end EngineClient.Session

namespace EngineClient.Pump

open Session

/-- The calls on the engine that are made between a stream and what becomes of it. -/
def callsBehind (pump last : Pump) : List EngineCall :=
  last.session.calls.drop pump.session.calls.length

/-- Whether the engine was told to end when the stream was cancelled, and could not be ended. -/
def Unstopped (pump last : Pump) : Prop :=
  .terminate pump.session.grace ∈ pump.callsBehind last ∧
    ∃ error, pump.session.engine.terminated = .error error

/-- Whether the one who cancels a stream is told of a failure to end the engine. -/
def TellsTeardown (pump last : Pump) : Prop :=
  ∀ error, .terminate pump.session.grace ∈ pump.callsBehind last →
    pump.session.engine.terminated = .error error → last.cancelAnswer? = some (.error error)

section

variable [Platform]

section

variable {pump last : Pump} {off : Session}

/-- The one who cancels a stream is only answered that the task has ended. -/
theorem Cancels.answer (cancels : pump.Cancels off last) : last.cancelAnswer? = some (.ok ()) := by
  rw [cancelAnswer?, cancels.task]
  rfl

/-- So a failure to end the engine is told only where there is none. -/
theorem Cancels.tells_iff (cancels : pump.Cancels off last) :
    pump.TellsTeardown last ↔ ¬pump.Unstopped last := by
  rw [TellsTeardown, cancels.answer]
  -- The answer is a good one, so it hides what goes wrong with the engine.
  constructor
  · rintro told ⟨terminates, error, fails⟩
    cases told error terminates fails
  · intro stopped error terminates fails
    exact absurd ⟨terminates, error, fails⟩ stopped

/-- A stream can be cancelled, unless a failure that nobody takes keeps its task from ending. -/
theorem exists_cancels (pump : Pump) :
    (∃ off last, pump.Cancels off last) ∨
      ∃ error item, pump.task = .failing error ∧ pump.room = some item := by
  -- Only a task that has to hand over a failure while the room is taken does not stop.
  cases task : pump.task with
  | reading => exact .inl ⟨_, _, .stops (by rw [task]; rfl)⟩
  | offering record => exact .inl ⟨_, _, .stops (by rw [task]; rfl)⟩
  | ended => exact .inl ⟨_, _, .ended task⟩
  | failing error => cases room : pump.room with
    | none => exact .inl ⟨_, _, .reports task room⟩
    | some item => exact .inr ⟨error, item, rfl, rfl⟩

/-- Until the task hears that its stream is cancelled, the engine is not told to end. -/
theorem Cancels.keeps (cancels : pump.Cancels off last) :
    off.engine = pump.session.engine ∧ off.grace = pump.session.grace ∧
      ∃ made, off.calls = pump.session.calls ++ made ∧ ∀ grace, .terminate grace ∉ made := by
  cases cancels with
  | abandons reading time ran => exact late_keeps ran
  | _ => exact ⟨rfl, rfl, [], (List.append_nil _).symm, by simp⟩

/-- No engine is told to end for an export that is not being read, and of which a first reading, as far
as it comes without a wait, leaves no output to be read on. -/
theorem Cancels.not_streaming (idle : ¬pump.session.IsStreaming)
    (brief : pump.task = .reading → ¬(pump.session.attemptRecord (some 0)).session.IsStreaming)
    (cancels : pump.Cancels off last) : ¬off.IsStreaming := by
  intro streaming
  cases cancels with
  | abandons reading time ran => exact brief reading (attemptRecord_at_once ran streaming)
  | _ => exact idle streaming

variable (quiet : pump.IsOver → ¬pump.session.IsStreaming)

include quiet

/-- Then the calls are made that calling the export off makes. -/
theorem Cancels.calls (cancels : pump.Cancels off last) :
    last.session.calls = off.cancel.2.calls := by
  cases cancels with
  | stops active => rfl
  | abandons reading time ran => rfl
  -- A task that is over leaves no output behind whose engine could be told to end.
  | reports failing free =>
    have done : pump.IsOver := by rw [IsOver, failing]; rfl
    exact (cancel_quiet (quiet done)).2.symm
  | ended ended =>
    have done : pump.IsOver := by rw [IsOver, ended]; rfl
    exact (cancel_quiet (quiet done)).2.symm

/-- Cancelling a stream tells the engine to end exactly if its output is still being read. -/
theorem Cancels.terminates_iff (cancels : pump.Cancels off last) :
    .terminate pump.session.grace ∈ pump.callsBehind last ↔ off.IsStreaming := by
  obtain ⟨engine, grace, made, calls, silent⟩ := cancels.keeps
  rw [callsBehind, cancels.calls quiet]
  -- The engine is told to end exactly if its output is being read.
  by_cases streaming : off.IsStreaming
  · rw [(cancel_streaming streaming).2, calls, grace, List.append_assoc, List.drop_left]
    simp [streaming]
  · rw [(cancel_quiet streaming).2, calls, List.drop_left]
    simp [streaming, silent]

/-- Calling the export off answers a failure exactly where cancelling the stream tells the engine to
end and it cannot be ended. -/
theorem Cancels.cancel_eq_error_iff (cancels : pump.Cancels off last) {error : Error} :
    off.cancel.1 = .error error ↔ .terminate pump.session.grace ∈ pump.callsBehind last ∧
      pump.session.engine.terminated = .error error := by
  rw [Session.cancel_eq_error_iff, cancels.terminates_iff quiet, cancels.keeps.1]

end

/-- Where the first reading of an export leaves no output to be read on, as far as it comes without a
wait, a stream of it reads once and is over. -/
theorem Reaches.first_or_over {session : Session} {pump : Pump}
    (reaches : Reaches { session } pump)
    (brief : ¬(session.attemptRecord (some 0)).session.IsStreaming) :
    pump.session = session ∧ pump.task = .reading ∨ pump.IsOver := by
  induction reaches with
  | refl => exact .inl ⟨rfl, rfl⟩
  | tail before step ih =>
    cases step with
    | brings wanted reading ran =>
      rcases ih with ⟨same, _⟩ | done
      · -- An event would leave an output behind it.
        exact absurd (attemptRecord_at_once (same ▸ ran) (streaming_of_event ran)) brief
      · rw [IsOver, reading] at done
        cases done
    | offers wanted offering free =>
      rcases ih with ⟨_, reading⟩ | done
      · cases offering.symm.trans reading
      · rw [IsOver, offering] at done
        cases done
    -- The other steps keep the task with the first reading, or end it.
    | takes => exact ih
    | givesUp => exact ih
    | _ => exact .inr rfl

/-- Where the first reading does leave an output to be read on, a stream can be cancelled while its
engine is still to be told to end. -/
theorem exists_streaming {session : Session}
    (going : (session.attemptRecord (some 0)).session.IsStreaming) :
    ∃ pump off last, Reaches { session } pump ∧ pump.wanted = true ∧ pump.Cancels off last ∧
      off.IsStreaming := by
  cases ran : session.attemptRecord (some 0) with
  | late after =>
    -- The reading that waits is abandoned.
    rw [ran] at going
    exact ⟨_, after, _, .refl, rfl, .abandons rfl 0 ran, going⟩
  | answered answer after =>
    rw [ran] at going
    have brought := attempt_answered ran
    rcases answer with error | (_ | record)
    -- An end or a failure would leave no output.
    · exact absurd going (not_streaming_of_release (release_of_attempt brought (by simp)))
    · exact absurd going (not_streaming_of_release (release_of_attempt brought (by simp)))
    · exact ⟨_, after, _, .single (.brings rfl rfl brought), rfl, .stops rfl, going⟩

section

variable {session off : Session} {pump last : Pump} (idle : session.phase = .idle)
  (uncalled : session.calls = [])

include idle uncalled

/-- A stream of an export keeps its engine and its grace period, and leaves no output to be read once
it is over. -/
theorem Reaches.keeps (reaches : Reaches { session } pump) :
    pump.session.engine = session.engine ∧ pump.session.grace = session.grace ∧
      (pump.IsOver → ¬pump.session.IsStreaming) := by
  obtain ⟨accounts, released⟩ := reaches.accounts (.start idle uncalled) rfl
  exact ⟨accounts.engine, accounts.grace, fun done => not_streaming_of_release (released done)⟩

/-- An engine that cannot be ended is told to end, if a stream of it is cancelled where its first
reading has left an output to be read on. -/
theorem exists_unstopped {error : Error} (fails : session.engine.terminated = .error error)
    (going : (session.attemptRecord (some 0)).session.IsStreaming) :
    ∃ pump off last, Reaches { session } pump ∧ pump.wanted = true ∧ pump.Cancels off last ∧
      pump.Unstopped last := by
  obtain ⟨pump, off, last, reaches, wanted, cancels, streaming⟩ := exists_streaming going
  obtain ⟨engine, _, quiet⟩ := reaches.keeps idle uncalled
  exact ⟨pump, off, last, reaches, wanted, cancels, (cancels.terminates_iff quiet).mpr streaming,
    error, engine ▸ fails⟩

/-- Where the first reading leaves no output to be read on, as far as it comes without a wait, no
engine is told to end. -/
theorem Reaches.not_unstopped (reaches : Reaches { session } pump)
    (brief : ¬(session.attemptRecord (some 0)).session.IsStreaming)
    (cancels : pump.Cancels off last) : ¬pump.Unstopped last := by
  rintro ⟨terminates, _⟩
  obtain ⟨_, _, quiet⟩ := reaches.keeps idle uncalled
  -- The engine was told to end, so its output was being read.
  have streaming := (cancels.terminates_iff quiet).mp terminates
  -- The stream has not read yet, or it is over.
  rcases reaches.first_or_over brief with ⟨rfl, reading⟩ | done
  · have unread : ¬pump.session.IsStreaming := by
      rintro ⟨decoder, phase⟩
      cases idle.symm.trans phase
    exact cancels.not_streaming unread (fun _ => brief) streaming
  · refine cancels.not_streaming (quiet done) (fun reading => ?_) streaming
    rw [IsOver, reading] at done
    cases done

/-- Cancelling tells how an engine was ended at every point of every stream of it exactly if ending it
goes well, or the first reading leaves no output to be read on, as far as it comes without a wait. -/
theorem tellsTeardown_always_iff :
    (∀ (pump last : Pump) (off : Session), Reaches { session } pump → pump.wanted = true →
      pump.Cancels off last → pump.TellsTeardown last) ↔
        (∃ report, session.engine.terminated = .ok report) ∨
          ¬(session.attemptRecord (some 0)).session.IsStreaming := by
  constructor
  · intro tells
    -- Otherwise the engine cannot be ended, and there is a moment at which it is told to.
    by_contra harmful
    obtain ⟨fails, going⟩ := not_or.mp harmful
    cases terminated : session.engine.terminated with
    | ok report => exact fails ⟨report, terminated⟩
    | error error =>
      obtain ⟨pump, off, last, reaches, wanted, cancels, unstopped⟩ :=
        exists_unstopped idle uncalled terminated (not_not.mp going)
      exact cancels.tells_iff.mp (tells pump last off reaches wanted cancels) unstopped
  · intro harmless pump last off reaches wanted cancels
    rw [cancels.tells_iff]
    -- Either ending the engine goes well, or it is never told to end.
    rcases harmless with ⟨report, well⟩ | brief
    · rintro ⟨_, error, fails⟩
      rw [(reaches.keeps idle uncalled).1] at fails
      cases well.symm.trans fails
    · exact reaches.not_unstopped idle uncalled brief cancels

end

/-- Cancelling a stream answers nothing but that its task has ended, at whatever point it is cancelled
and however many items were taken before. The calls it makes are those of calling its export off, which
answers the failure where the engine is told to end by them and cannot be ended. So cancelling tells
how the engine was ended exactly where there is no such failure to tell.

It does so at every point of every stream of an engine exactly if ending that engine goes well, or the
first reading leaves no output to be read on, as far as it comes without a wait.

Cancelling always comes back, unless a failure that nobody takes keeps the task from ending. What is
taken in a run that is then cancelled is one of these streams. -/
theorem tellsTeardown_iff (engine : Engine) (invocation : Invocation) (request : ExportRequest)
    (grace : Nat) :
    let fresh : Session := { engine, invocation, request, grace }
    (∀ (pump last : Pump) (off : Session), Reaches { session := fresh } pump →
      pump.wanted = true → pump.Cancels off last →
      last.cancelAnswer? = some (.ok ()) ∧ last.session.calls = off.cancel.2.calls ∧
      (∀ error, off.cancel.1 = .error error ↔
        .terminate grace ∈ pump.callsBehind last ∧ engine.terminated = .error error) ∧
      (pump.TellsTeardown last ↔ ¬pump.Unstopped last)) ∧
    ((∀ (pump last : Pump) (off : Session), Reaches { session := fresh } pump →
      pump.wanted = true → pump.Cancels off last → pump.TellsTeardown last) ↔
        (∃ report, engine.terminated = .ok report) ∨
          ¬(fresh.attemptRecord (some 0)).session.IsStreaming) ∧
    (∀ pump : Pump, (∃ off last, pump.Cancels off last) ∨
      ∃ error item, pump.task = .failing error ∧ pump.room = some item) ∧
    (∀ (most : Option Nat) (taken : Taken), fresh.stream most = some taken →
      ∃ last, IsCancelled { session := fresh } last ∧ last.session = taken.session ∧
        last.taken = taken.items ∧ last.cancelAnswer? = taken.pump.cancelAnswer?) := by
  intro fresh
  -- Each moment that is reached keeps the engine and has not told it to end before.
  refine ⟨fun pump last off reaches wanted cancels => ?_, tellsTeardown_always_iff rfl rfl,
    exists_cancels, fun most taken ran => ?_⟩
  · obtain ⟨kept, grace, quiet⟩ := reaches.keeps rfl rfl
    refine ⟨cancels.answer, cancels.calls quiet, fun error => ?_, cancels.tells_iff⟩
    rw [cancels.cancel_eq_error_iff quiet, grace, kept]
  · -- A stream that is taken from and cancelled is one of these.
    obtain ⟨last, ⟨wanted, off, reaches, kept, cancels⟩, ends, items⟩ := stream_cancels ran
    exact ⟨last, ⟨wanted, off, reaches, kept, cancels⟩, ends, items, cancels.answer⟩

end

/-- An export of an engine that writes one empty object, then hangs, and cannot be ended. -/
def stuck : Session where
  engine :=
    { output := [.data [123, 125, 10], .hang]
      terminated := .error { kind := .io, message := some "stuck" } }
  invocation := ⟨"tenzir-ctl", ["--endpoint=h:1", "export", "json"]⟩
  request := {}
  grace := 3000

/-- The object is read, and the engine hangs. -/
theorem stuck_record [Platform] : ∃ after, after.IsStreaming ∧
    stuck.attemptRecord none = .answered (.ok (some ⟨none, []⟩)) after := by
  -- The line holds an object, and the engine hangs behind it.
  have first : Json.Lines.next { source := { events := [.data [123, 125, 10], .hang] } }
      = some (.ok (some ⟨none, []⟩), { source := { events := [.hang] }, count := 1 }) := by
    rw [Json.Lines.next_eq]
    rfl
  rw [attemptRecord, attempt_started rfl rfl rfl]
  simp only [readFrom, Decoder.nextRecord, Decoder.ofSource, stuck, first]
  exact ⟨_, ⟨_, rfl⟩, rfl⟩

open scoped Platform in
/-- When the stream is cancelled behind the object, its engine is told to end and cannot be ended, and
that is not told. -/
theorem not_tellsTeardown_stuck :
    ∃ (pump last : Pump) (off : Session), Reaches { session := stuck } pump ∧
      pump.wanted = true ∧ pump.taken = [.ok ⟨none, []⟩] ∧ pump.Cancels off last ∧
      off.cancel.1 = .error { kind := .io, message := some "stuck" } ∧
      last.cancelAnswer? = some (.ok ()) ∧ ¬pump.TellsTeardown last := by
  obtain ⟨after, streaming, brought⟩ := stuck_record
  have reaches : Reaches { session := stuck } { session := after, taken := [.ok ⟨none, []⟩] } :=
    ((Relation.ReflTransGen.single (.brings rfl rfl brought)).tail (.offers rfl rfl rfl)).tail
      (.takes rfl rfl)
  obtain ⟨engine, _, quiet⟩ := reaches.keeps rfl rfl
  -- The task is about to read on, and before it does it hears that the stream is cancelled.
  have cancels : Cancels { session := after, taken := [.ok ⟨none, []⟩] } after _ := .stops rfl
  have terminates := (cancels.terminates_iff quiet).mpr streaming
  have fails : after.engine.terminated = .error { kind := .io, message := some "stuck" } := by
    rw [engine]
    rfl
  -- The export would have answered the failure, and the stream does not.
  have answers := (cancels.cancel_eq_error_iff quiet).mpr ⟨terminates, fails⟩
  have untold := fun told => cancels.tells_iff.mp told ⟨terminates, _, fails⟩
  exact ⟨_, _, _, reaches, rfl, rfl, cancels, answers, cancels.answer, untold⟩

end EngineClient.Pump
