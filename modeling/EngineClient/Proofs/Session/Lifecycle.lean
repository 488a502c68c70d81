import EngineClient.Proofs.Session.Attempts
import EngineClient.Proofs.Session.Calls

/-! An export starts its engine once and ends it once, and stays as it ended. -/

namespace EngineClient.Session

/-- The calls on the engine that an export of a phase can have made. -/
def histories (session : Session) : Phase → List (List EngineCall)
  | .idle => [[]]
  -- While the output is read, the engine was started and nothing was asked of it since.
  | .streaming _ => [[.spawn session.invocation.display]]
  | .leaving | .completed => [[.spawn session.invocation.display, .wait]]
  -- Calling off ends an engine that runs; before the start and behind the wait none does.
  | .cancelled =>
    [[], [.spawn session.invocation.display, .wait],
      [.spawn session.invocation.display, .terminate session.grace]]
  -- An engine that failed to start is not waited for; one that broke its output off is ended.
  | .failed _ _ =>
    [[.spawn session.invocation.display], [.spawn session.invocation.display, .wait],
      [.spawn session.invocation.display, .terminate session.grace]]

/-- The calls on the engine that an export can have made at all. -/
def allHistories (session : Session) : List (List EngineCall) :=
  [[], [.spawn session.invocation.display], [.spawn session.invocation.display, .wait],
    [.spawn session.invocation.display, .terminate session.grace]]

/-- No phase allows other calls. -/
theorem histories_subset (session : Session) (phase : Phase) :
    session.histories phase ⊆ session.allHistories := by
  cases phase <;> simp [histories, allHistories]

/-- A session that a fresh one can become: what is exported is the same, and the engine was called
as the phase says. -/
structure Arises (fresh session : Session) : Prop where
  engine : session.engine = fresh.engine
  invocation : session.invocation = fresh.invocation
  request : session.request = fresh.request
  grace : session.grace = fresh.grace
  calls : session.calls ∈ fresh.histories session.phase

namespace Arises

variable {fresh session : Session}

/-- An idle export has made no call. -/
theorem calls_idle (arises : Arises fresh session) (idle : session.phase = .idle) :
    session.calls = [] := by
  have made := arises.calls
  rw [idle] at made
  exact List.mem_singleton.mp made

/-- An export whose output is read has started its engine. -/
theorem calls_streaming (arises : Arises fresh session) {decoder : Decoder}
    (streaming : session.phase = .streaming decoder) :
    session.calls = [.spawn fresh.invocation.display] := by
  have made := arises.calls
  rw [streaming] at made
  exact List.mem_singleton.mp made

/-- Nothing but the phase and what was handed out changes without a call on the engine. -/
theorem moved (arises : Arises fresh session) {phase : Phase} (delivered : UInt64)
    (made : session.calls ∈ fresh.histories phase) :
    Arises fresh { session with phase, delivered } :=
  ⟨arises.engine, arises.invocation, arises.request, arises.grace, made⟩

/-- One more call on the engine leads to a phase that has it. -/
theorem movedCalled (arises : Arises fresh session) {phase : Phase} {call : EngineCall}
    (made : session.calls ++ [call] ∈ fresh.histories phase) :
    Arises fresh { session.called call with phase } :=
  ⟨arises.engine, arises.invocation, arises.request, arises.grace, made⟩

end Arises

/-- The failure that an export ended with is the one that was answered. -/
def Blames (session : Session) (failure : Option Error) : Prop :=
  ∀ kind reason, session.phase = .failed kind reason →
    ∃ error, failure = some error ∧ error.kind = kind ∧ error.display = reason

/-- An export that has just failed blames what it failed for. -/
theorem fail_blames (session : Session) (error : Error) :
    (session.fail error).Blames (some error) := by
  intro kind reason failed
  injection failed with sameKind sameReason
  exact ⟨error, rfl, sameKind, sameReason⟩

/-- An export that has not failed blames nothing. -/
theorem blames_of_not_failed {session : Session} {failure : Option Error}
    (fine : ∀ kind reason, session.phase ≠ .failed kind reason) : session.Blames failure :=
  fun kind reason failed => absurd failed (fine kind reason)

/-- An export that is not over has not failed. -/
theorem not_failed_of_live {session : Session} (live : session.phase.isTerminal = false) :
    ∀ kind reason, session.phase ≠ .failed kind reason := by
  intro kind reason failed
  rw [failed] at live
  cases live

/-- What an attempt makes of a session that is not over. -/
structure Attempt.Settles {α : Type} (fresh : Session) (attempt : Attempt α) : Prop where
  arises : Arises fresh attempt.session
  blames : attempt.session.Blames attempt.failure?

section

variable {α : Type} {read : Decoder → Decoder.Answer α} {count : α → UInt64} {limit : Option Nat}
  {fresh session : Session}

/-- Reading from an output makes of a session what an attempt may. -/
theorem Reads.settles {decoder held : Decoder} {result : Attempt (Option α)}
    (reads : Reads read count limit decoder session result) (arises : Arises fresh session)
    (streaming : session.phase = .streaming held) : result.Settles fresh := by
  -- The engine was started and nothing else was called, so one more call settles the history.
  have started := arises.calls_streaming streaming
  cases reads with
  | nothing => exact ⟨arises, blames_of_not_failed fun _ _ => by simp [Attempt.session, streaming]⟩
  | item brought =>
    refine ⟨arises.moved _ ?_, blames_of_not_failed fun _ _ => by simp [Attempt.session]⟩
    simp [histories, started]
  | left ended punctual late =>
    refine ⟨arises.movedCalled ?_, blames_of_not_failed fun _ _ => by simp [Attempt.session]⟩
    simp [histories, started]
  | completed ended settled =>
    refine ⟨arises.movedCalled ?_, blames_of_not_failed fun _ _ => by simp [Attempt.session]⟩
    simp [histories, started]
  | refused ended settled =>
    refine ⟨arises.movedCalled ?_, fail_blames _ _⟩
    simp [histories, started]
  -- An output that cannot be read on ends the engine instead of waiting for it.
  | broken failed =>
    refine ⟨arises.movedCalled ?_, fail_blames _ _⟩
    simp [histories, started, arises.grace]

/-- An attempt to read makes of a session that is not over what an attempt may. -/
theorem Attempts.settles {result : Attempt (Option α)}
    (attempts : Attempts read count limit session result) (arises : Arises fresh session)
    (live : session.phase.isTerminal = false) : result.Settles fresh := by
  -- Starting adds the first call to the history, from where reading goes on as from a started one.
  cases attempts with
  | unstarted idle spawned =>
    refine ⟨arises.movedCalled ?_, fail_blames _ _⟩
    simp [histories, arises.calls_idle idle, arises.invocation]
  | started idle spawned opened reads =>
    refine reads.settles (arises.movedCalled ?_) rfl
    simp [histories, arises.calls_idle idle, arises.invocation]
  | reading streaming reads => exact reads.settles arises streaming
  -- An attempt behind the end changes nothing.
  | ended past => exact ⟨arises, blames_of_not_failed (not_failed_of_live live)⟩
  | cancelled off => simp [off, Phase.isTerminal] at live
  | failed before => simp [before, Phase.isTerminal] at live

/-- Where something is handed out, the output is still being read. -/
theorem Attempts.item_streaming {item : α} {after : Session}
    (attempts : Attempts read count limit session (.answered (.ok (some item)) after)) :
    ∃ decoder, after.phase = .streaming decoder := by
  -- Of all ways an attempt goes, only the one that brings an item answers with one.
  cases attempts with
  | started idle spawned opened reads => cases reads with
    | item brought => exact ⟨_, rfl⟩
  | reading streaming reads => cases reads with
    | item brought => exact ⟨_, rfl⟩

/-- An attempt to read from an export that is over finds it over and leaves it so. -/
theorem Attempts.terminal {result : Attempt (Option α)}
    (attempts : Attempts read count limit session result)
    (terminal : session.phase.isTerminal = true) :
    ∃ answer : Except Error Unit,
      result = .answered (answer.map fun _ => none) session := by
  -- Nothing is read, so the phase alone decides between an end and a failure.
  cases attempts with
  | unstarted idle spawned => simp [idle, Phase.isTerminal] at terminal
  | started idle spawned opened reads => simp [idle, Phase.isTerminal] at terminal
  | reading streaming reads => simp [streaming, Phase.isTerminal] at terminal
  | ended past => exact ⟨.ok (), rfl⟩
  | cancelled off => exact ⟨.error session.cancelledError, rfl⟩
  | failed before => exact ⟨.error (session.failedError _ _), rfl⟩

end

section

variable {fresh session : Session}

/-- An attempt to read a batch makes of a session that is not over what an attempt may. -/
theorem attemptBatch_settles [Platform] {limit : Option Nat}
    {result : Attempt (Option Arrow.NamedBatch)}
    (ran : session.attemptBatch limit = result) (arises : Arises fresh session)
    (live : session.phase.isTerminal = false) : result.Settles fresh := by
  -- Without batches in the encoding, the attempt is turned down before the engine is looked at.
  subst ran
  cases encoding : session.request.encoding with
  | json =>
    simp only [attemptBatch, encoding]
    exact ⟨arises, blames_of_not_failed (not_failed_of_live live)⟩
  | arrow =>
    rw [attemptBatch_eq encoding]
    exact (attempt_attempts session).settles arises live

/-- Where a batch is handed out, the output is still being read. -/
theorem attemptBatch_streaming [Platform] {limit : Option Nat} {batch : Arrow.NamedBatch}
    {after : Session}
    (ran : session.attemptBatch limit = .answered (.ok (some batch)) after) :
    ∃ decoder, after.phase = .streaming decoder := by
  -- Only Arrow output has batches.
  cases encoding : session.request.encoding with
  | json => simp [attemptBatch, encoding] at ran
  | arrow =>
    rw [attemptBatch_eq encoding] at ran
    exact (ran ▸ attempt_attempts session).item_streaming

/-- Calling an export off keeps to the calls that its phases allow. -/
theorem cancel_arises (arises : Arises fresh session) : Arises fresh session.cancel.2 := by
  -- Only an engine whose output is being read is told to end; all else is at most a change of phase.
  unfold cancel
  cases phase : session.phase with
  | idle =>
    refine arises.moved _ ?_
    simp [histories, arises.calls_idle phase]
  | streaming decoder =>
    refine arises.movedCalled ?_
    simp [histories, arises.calls_streaming phase, arises.grace]
  -- The wait was begun and given up, so nothing more is asked of the engine.
  | leaving =>
    have made := arises.calls
    rw [phase] at made
    refine arises.moved _ ?_
    simp [histories, List.mem_singleton.mp made]
  | completed => exact arises
  | cancelled => exact arises
  | failed kind reason => exact arises

/-- An export that is called off has not failed by that. -/
theorem cancel_not_failed (live : ∀ kind reason, session.phase ≠ .failed kind reason) :
    ∀ kind reason, session.cancel.2.phase ≠ .failed kind reason := by
  intro kind reason
  unfold cancel
  -- To call an export off fails nothing, and a failure was ruled out before.
  cases phase : session.phase with
  | failed kind reason => exact absurd phase (live kind reason)
  | _ => simp [Phase.isTerminal, called, phase]

/-- Stopping at a limit makes of a session that has not failed what an attempt may. -/
theorem stopWith_settles (tables : Tables) (arises : Arises fresh session)
    (fine : ∀ kind reason, session.phase ≠ .failed kind reason) :
    (Attempt.answered (session.stopWith tables).1 (session.stopWith tables).2).Settles fresh :=
  ⟨cancel_arises arises, blames_of_not_failed (cancel_not_failed fine)⟩

/-- An attempt that comes too late leaves no failure behind. -/
theorem late_not_failed {α : Type} {attempt : Attempt α} {after : Session}
    (settles : attempt.Settles fresh) (late : attempt = .late after) :
    ∀ kind reason, after.phase ≠ .failed kind reason := by
  -- An attempt that comes too late answers no failure, so there is none to be blamed for.
  subst late
  intro kind reason failed
  obtain ⟨error, absurd, _⟩ := settles.blames kind reason failed
  simp [Attempt.failure?] at absurd

/-- Gathering makes of a session that is not over what an attempt may. -/
theorem Gathers.settles [Platform] {limit : Option Nat} {maxRows : Option UInt64} {rows : UInt64}
    {tables : Tables}
    {result : Attempt Tables} (gathers : Gathers limit maxRows rows tables session result)
    (arises : Arises fresh session) (live : session.phase.isTerminal = false) :
    result.Settles fresh := by
  -- The induction is on the batches gathered; behind each of them the output is still being read.
  induction gathers with
  -- Stopping ends an output that is still being read.
  | reached plenty => exact stopWith_settles _ arises (not_failed_of_live live)
  | stopped ran limited =>
    have settles := attemptBatch_settles ran arises live
    exact stopWith_settles _ settles.arises (late_not_failed settles rfl)
  | stuck ran unlimited =>
    have settles := attemptBatch_settles ran arises live
    exact ⟨settles.arises, settles.blames⟩
  | failed ran =>
    have settles := attemptBatch_settles ran arises live
    exact ⟨settles.arises, settles.blames⟩
  | ended ran =>
    have settles := attemptBatch_settles ran arises live
    exact ⟨settles.arises, settles.blames⟩
  | batch ran rest ih =>
    have settles := attemptBatch_settles ran arises live
    obtain ⟨decoder, streaming⟩ := attemptBatch_streaming ran
    exact ih settles.arises (by rw [streaming]; rfl)

/-- What an attempt makes of a session, the call with it makes too. -/
theorem Attempt.Settles.made {α : Type} {wrap : Except Error α → Reply} {attempt : Attempt α}
    (settles : attempt.Settles fresh)
    (wrapped : ∀ answer, (wrap answer).failure? = failureOf answer) :
    Arises fresh (attempt.outcome wrap).session ∧
      (attempt.outcome wrap).session.Blames (attempt.outcome wrap).failure? := by
  rw [Attempt.outcome_session, Attempt.outcome_failure wrapped]
  exact ⟨settles.arises, settles.blames⟩

variable [Platform]

/-- A call makes of a session that is not over what an attempt may. -/
theorem make_settles (call : Call) (held : call ≠ .drop) (arises : Arises fresh session)
    (live : session.phase.isTerminal = false) :
    Arises fresh (session.make call).session ∧
      (session.make call).session.Blames (session.make call).failure? := by
  have fine := not_failed_of_live live
  cases call with
  | record =>
    -- Records are read in both encodings, so this is an attempt like every other.
    have settles : (session.attemptRecord none).Settles fresh :=
      (attempt_attempts session).settles arises live
    exact settles.made fun _ => rfl
  | batch => exact (attemptBatch_settles rfl arises live).made fun _ => rfl
  | cancel => exact ⟨cancel_arises arises, blames_of_not_failed (cancel_not_failed fine)⟩
  | collect bound =>
    rcases session.attemptCollect_cases bound with broken | ⟨attempt, collected, declined | gathers⟩
    · -- What breaks off leaves the session alone.
      simp only [make, broken]
      exact ⟨arises, blames_of_not_failed fine⟩
    · -- So does what is turned down.
      obtain ⟨error, rfl⟩ := declined
      simp only [make, collected]
      exact Attempt.Settles.made ⟨arises, blames_of_not_failed fine⟩ fun _ => rfl
    · simp only [make, collected]
      exact (gathers.settles arises live).made fun _ => rfl
  | drop => exact absurd rfl held

/-- An attempt to read a batch from an export that is over brings none and leaves it as it is. -/
theorem attemptBatch_terminal (limit : Option Nat) (terminal : session.phase.isTerminal = true) :
    ∃ answer : Except Error Unit,
      session.attemptBatch limit = .answered (answer.map fun _ => none) session := by
  -- Lines have no batches in any phase.
  cases encoding : session.request.encoding with
  | json => exact ⟨.error Decoder.noBatches, by simp [attemptBatch, encoding, Except.map]⟩
  | arrow =>
    rw [attemptBatch_eq encoding]
    exact (attempt_attempts session).terminal terminal

/-- Gathering from an export that is over adds nothing and leaves it as it is. -/
theorem Gathers.terminal {limit : Option Nat} {maxRows : Option UInt64} {rows : UInt64}
    {tables : Tables}
    {result : Attempt Tables} (gathers : Gathers limit maxRows rows tables session result)
    (terminal : session.phase.isTerminal = true) :
    ∃ answer : Except Error Unit, result = .answered (answer.map fun _ => tables) session := by
  -- An attempt answers at once and brings nothing, so there is no batch to go on from.
  obtain ⟨given, answered⟩ := attemptBatch_terminal limit terminal
  cases gathers with
  | reached plenty => exact ⟨.ok (), by simp [stopWith, cancel, terminal, Except.map]⟩
  | stopped ran limited => simp [answered] at ran
  | stuck ran unlimited => simp [answered] at ran
  | failed ran =>
    rw [answered] at ran
    cases given with
    | error error =>
      cases ran
      exact ⟨.error _, rfl⟩
    | ok nothing => cases ran
  | ended ran =>
    rw [answered] at ran
    cases given with
    | error error => cases ran
    | ok nothing =>
      cases ran
      exact ⟨.ok (), rfl⟩
  | batch ran rest =>
    rw [answered] at ran
    cases given <;> cases ran

/-- A call on an export that is over is answered without data, unless it breaks off, and leaves the
export as it is. -/
theorem make_terminal (call : Call) (terminal : session.phase.isTerminal = true) :
    ∃ reply : Option Reply, session.make call = ⟨reply, session⟩ ∧
      ∀ given ∈ reply, given.bringsData = false := by
  -- Each kind of call wraps an answer that carries nothing into a reply of its own.
  cases call with
  | record =>
    obtain ⟨answer, answered⟩ : ∃ answer : Except Error Unit,
        session.attemptRecord none = .answered (answer.map fun _ => none) session :=
      (attempt_attempts session).terminal terminal
    refine ⟨some (.record (answer.map fun _ => none)),
      by simp only [make, answered, Attempt.outcome], ?_⟩
    cases answer <;> simp [Except.map, Reply.bringsData]
  | batch =>
    obtain ⟨answer, answered⟩ := attemptBatch_terminal none terminal
    refine ⟨some (.batch (answer.map fun _ => none)),
      by simp only [make, answered, Attempt.outcome], ?_⟩
    cases answer <;> simp [Except.map, Reply.bringsData]
  | cancel =>
    exact ⟨some (.cancelled (.ok ())), by simp [make, cancel, terminal], by simp [Reply.bringsData]⟩
  | collect bound =>
    -- Tables are turned down, or gathered from no batch.
    rcases session.attemptCollect_cases bound with broken | ⟨attempt, collected, declined | gathers⟩
    · exact ⟨none, by simp only [make, broken], by simp⟩
    · obtain ⟨error, rfl⟩ := declined
      exact ⟨some (.tables (.error error)), by simp only [make, collected, Attempt.outcome],
        by simp [Reply.bringsData]⟩
    · obtain ⟨answer, rfl⟩ := gathers.terminal terminal
      refine ⟨some (.tables (answer.map fun _ => {})),
        by simp only [make, collected, Attempt.outcome], ?_⟩
      cases answer <;> simp [Except.map, Reply.bringsData]
  | drop =>
    refine ⟨some .dropped, ?_, by simp [Reply.bringsData]⟩
    unfold make release
    cases phase : session.phase with
    | streaming decoder => simp [phase, Phase.isTerminal] at terminal
    | _ => rfl

end

variable [Platform]

/-- An export that no call changes any more, and that hands out nothing any more. -/
def Rests (session : Session) : Prop :=
  ∀ later : List Call, (session.run later).2 = session ∧
    ∀ reply ∈ (session.run later).1, reply.bringsData = false

/-- An export that is over rests. -/
theorem rests_of_terminal {session : Session} (terminal : session.phase.isTerminal = true) :
    session.Rests := by
  -- The first call leaves the session as it is, so the rest of the run starts from it again.
  intro later
  induction later with
  | nil => exact ⟨rfl, fun _ absurd => nomatch absurd⟩
  | cons call rest ih =>
    -- The call is answered without data, or never.
    obtain ⟨reply, made, bare⟩ := make_terminal call terminal
    cases reply with
    | none =>
      rw [run, made]
      exact ⟨rfl, fun _ absurd => nomatch absurd⟩
    | some reply =>
      have bare := bare reply rfl
      simp only [run, made]
      split
      · exact ⟨rfl, by simpa using bare⟩
      · exact ⟨ih.1, by simpa [bare] using ih.2⟩

/-- What all calls for data answer: an end or a failure; batches are asked of Arrow exports only. -/
def AnswersAll (session : Session) (answer : Except Error Unit) : Prop :=
  (session.make .record).reply = some (.record (answer.map fun _ => none)) ∧
    (session.request.encoding = .arrow →
      (session.make .batch).reply = some (.batch (answer.map fun _ => none)))

/-- An export that no engine is asked for answers what it found instead. -/
theorem answersAll_of_ready {session : Session} {answer : Except Error Unit}
    (ready : session.ready = (answer.map fun _ => none, session)) : session.AnswersAll answer := by
  -- Records and batches are read by one attempt, which ends before its reader is used.
  have attempt {α : Type} (read : Decoder → Decoder.Answer α) (count : α → UInt64) :
      session.attempt read count none = .answered (answer.map fun _ => none) session := by
    unfold Session.attempt
    rw [ready]
    cases answer <;> rfl
  refine ⟨?_, fun arrow => ?_⟩
  · simp only [make, attemptRecord, attempt, Attempt.outcome]
  · simp only [make, attemptBatch_eq arrow, attempt, Attempt.outcome]

/-- An export that has failed answers that it has, and why. -/
theorem answersAll_failed {session : Session} {kind : ErrorKind} {reason : String}
    (failed : session.phase = .failed kind reason) :
    session.AnswersAll (.error (session.failedError kind reason)) := by
  refine answersAll_of_ready ?_
  simp only [ready, failed]
  rfl

/-- An export that was called off answers that it was. -/
theorem answersAll_cancelled {session : Session} (cancelled : session.phase = .cancelled) :
    session.AnswersAll (.error session.cancelledError) := by
  refine answersAll_of_ready ?_
  simp only [ready, cancelled]
  rfl

/-- An export that has ended as it should answers its end. -/
theorem answersAll_completed {session : Session} (completed : session.phase = .completed) :
    session.AnswersAll (.ok ()) := by
  refine answersAll_of_ready ?_
  simp only [ready, completed]
  rfl

/-- Calls that do not fit an export: for batches that it does not have, or without an end. -/
def Unsuited (request : ExportRequest) : Call → Prop
  | .batch => request.encoding = .json
  | .collect bound =>
    request.encoding = .json ∨
      (request.mode.isFinite = false ∧ request.maxEvents = none ∧ bound.isUnbounded = true)
  | _ => False

/-- A call that does not fit is turned down, and the export is left as it is. -/
theorem make_unsuited {session : Session} {call : Call} (unsuited : Unsuited session.request call) :
    ∃ error : Error, error.kind = .usage ∧ (session.make call).failure? = some error ∧
      (session.make call).session = session := by
  cases call with
  | batch =>
    -- The encoding is looked at first, whatever phase the export is in.
    have json : session.request.encoding = .json := unsuited
    refine ⟨Decoder.noBatches, rfl, ?_, ?_⟩ <;> simp only [make, attemptBatch, json] <;> rfl
  | collect bound =>
    -- Tables need batches first, and then an end.
    by_cases json : session.request.encoding = .json
    · refine ⟨noTables, rfl, ?_, ?_⟩ <;> simp only [make, attemptCollect, json, if_true] <;> rfl
    · obtain absurd | ⟨endless, unlimited, unbounded⟩ := unsuited
      · exact (json absurd).elim
      · have declined : (!mayEnd session.request && bound.isUnbounded) = true := by
          simp [mayEnd, endless, unlimited, unbounded]
        refine ⟨needsBound session.request.mode, rfl, ?_, ?_⟩ <;>
          simp only [make, attemptCollect, if_neg json, if_pos declined] <;> rfl
  | record => exact unsuited.elim
  | cancel => exact unsuited.elim
  | drop => exact unsuited.elim

section

variable {fresh : Session} (idle : fresh.phase = .idle) (uncalled : fresh.calls = [])
include idle uncalled

/-- A fresh export becomes what it may in every run. -/
theorem run_arises {calls : List Call} (held : .drop ∉ calls) :
    Arises fresh (fresh.run calls).2 := by
  refine run_keeps ?_ held ⟨rfl, rfl, rfl, rfl, by simp [idle, uncalled, histories]⟩
  intro session call member held arises
  -- A session that is over is not changed at all, and one that is not makes an allowed move.
  cases terminal : session.phase.isTerminal with
  | false => exact (make_settles call held arises terminal).1
  | true =>
    obtain ⟨reply, made, _⟩ := make_terminal call terminal
    rw [made]
    exact arises

/-- Whatever is called on a fresh export, its engine is started once at most, and waited for or
told to end, but not both. -/
theorem run_calls (calls : List Call) : (fresh.run calls).2.calls ∈ fresh.allHistories := by
  obtain ⟨others, front, held, ends⟩ := run_ends calls fresh
  -- Without letting go, the calls are those of one of the histories.
  have arises := run_arises idle uncalled held
  have kept := histories_subset fresh _ arises.calls
  rcases ends with ⟨same, absent⟩ | released
  · rw [same]
    exact kept
  · -- Letting go ends an engine that was only started so far.
    rw [released]
    unfold release
    cases phase : (fresh.run others).2.phase with
    | streaming decoder =>
      simp [called, arises.calls_streaming phase, arises.grace, allHistories]
    | _ => exact kept

end

/-- The life of an export, whatever its engine does and whatever is called on it: the engine is
started once at most, and waited for or told to end, but not both; an export that is over rests, and
answers by how it ended; and a call that does not fit changes nothing. -/
theorem run_lifecycle (engine : Engine) (invocation : Invocation) (request : ExportRequest)
    (grace : Nat) :
    let fresh : Session := { engine, invocation, request, grace }
    (∀ calls : List Call, (fresh.run calls).2.calls ∈
      [[], [.spawn invocation.display], [.spawn invocation.display, .wait],
        [.spawn invocation.display, .terminate grace]]) ∧
    (∀ calls : List Call, .drop ∉ calls → (fresh.run calls).2.phase.isTerminal = true →
      (fresh.run calls).2.Rests) ∧
    (∀ (calls : List Call) (call : Call) (kind : ErrorKind) (reason : String),
      .drop ∉ calls → call ≠ .drop → (fresh.run calls).2.phase.isTerminal = false →
      ((fresh.run calls).2.make call).session.phase = .failed kind reason →
      ∃ error, ((fresh.run calls).2.make call).failure? = some error ∧ error.kind = kind ∧
        ∀ later : List Call, ∃ again : Error, again.kind = kind ∧
          again.message = some ("export already failed: " ++ error.display) ∧
          (((fresh.run calls).2.make call).session.run later).2.AnswersAll (.error again)) ∧
    (∀ calls : List Call, .drop ∉ calls → (fresh.run calls).2.phase = .cancelled →
      ∃ error : Error, error.kind = .cancelled ∧ (fresh.run calls).2.AnswersAll (.error error)) ∧
    (∀ calls : List Call, .drop ∉ calls → (fresh.run calls).2.phase = .completed →
      (fresh.run calls).2.AnswersAll (.ok ())) ∧
    (∀ (calls : List Call) (call : Call), .drop ∉ calls → Unsuited request call →
      ∃ error : Error, error.kind = .usage ∧
        ((fresh.run calls).2.make call).failure? = some error ∧
        ((fresh.run calls).2.make call).session = (fresh.run calls).2) := by
  intro fresh
  have arises {calls : List Call} (held : .drop ∉ calls) : Arises fresh (fresh.run calls).2 :=
    run_arises rfl rfl held
  have called : ∀ calls : List Call, (fresh.run calls).2.calls ∈ fresh.allHistories :=
    run_calls rfl rfl
  refine ⟨called, fun calls held => rests_of_terminal, ?_, ?_, ?_, ?_⟩
  · -- The call that leads to the failure answers it, and everything later repeats its display.
    intro calls call kind reason held kept live failed
    obtain ⟨error, answered, sameKind, sameReason⟩ :=
      (make_settles call kept (arises held) live).2 kind reason failed
    refine ⟨error, answered, sameKind, fun later => ?_⟩
    have rests := rests_of_terminal (by rw [failed]; rfl) later
    rw [rests.1, sameReason]
    exact ⟨_, rfl, rfl, answersAll_failed failed⟩
  · intro calls held cancelled
    exact ⟨_, rfl, answersAll_cancelled cancelled⟩
  · intro calls held completed
    exact answersAll_completed completed
  · intro calls call held unsuited
    -- The request stays the same throughout the run.
    refine make_unsuited ?_
    rw [(arises held).request]
    exact unsuited

end EngineClient.Session
