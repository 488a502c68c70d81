import EngineClient.Proofs.Arrow.Batches
import EngineClient.Proofs.Json.Lines
import EngineClient.Proofs.Session.Attempts
import EngineClient.Proofs.Session.Calls
import EngineClient.Session.Pump
import EngineClient.Session.Stream
import Mathlib.Logic.Relation

/-! An engine that was started is waited for or told to end on every way that an export can take,
unless the wait for it fails or is given up. -/

namespace EngineClient.Session

/-- Whether a call may give up what it waits for. -/
def Call.HasDeadline : Call → Prop
  | .collect bound => bound.timeout ≠ none
  | _ => False

/-- What attempts to read and calling off keep, where reading may be limited in time or not. -/
structure Invariant (limited : Prop) (Kept : Session → Prop) : Prop where
  attempt {α : Type} {read : Decoder → Decoder.Answer α} {count : α → UInt64} {limit : Option Nat}
    {session : Session} (allowed : limit ≠ none → limited) (kept : Kept session) :
    Kept (session.attempt read count limit).session
  cancel {session : Session} (kept : Kept session) : Kept session.cancel.2

namespace Invariant

variable {limited : Prop} {Kept : Session → Prop} {session : Session}

variable [Platform]

/-- An attempt to read a batch keeps what all attempts keep. -/
theorem attemptBatch (invariant : Invariant limited Kept) {limit : Option Nat}
    (allowed : limit ≠ none → limited) (kept : Kept session)
    {result : Attempt (Option Arrow.NamedBatch)} (ran : session.attemptBatch limit = result) :
    Kept result.session := by
  rw [← ran]
  -- Where there are no batches, the session stays as it is.
  cases encoding : session.request.encoding with
  | json =>
    simp only [Session.attemptBatch, encoding]
    exact kept
  | arrow =>
    rw [attemptBatch_eq encoding]
    exact invariant.attempt allowed kept

/-- Gathering makes attempts, and calls off at a limit. -/
theorem gather (invariant : Invariant limited Kept) {limit : Option Nat} {maxRows : Option UInt64}
    (allowed : limit ≠ none → limited) {rows : UInt64} {tables : Tables} {result : Attempt Tables}
    (gathers : Gathers limit maxRows rows tables session result) (kept : Kept session) :
    Kept result.session := by
  -- The induction is on the batches gathered, each of which an attempt brings.
  induction gathers with
  | reached plenty => exact invariant.cancel kept
  -- A limit on time strikes in the last attempt, and only then is the export called off.
  | stopped ran limited => exact invariant.cancel (invariant.attemptBatch allowed kept ran)
  | stuck ran unlimited => exact invariant.attemptBatch allowed kept ran
  | failed ran => exact invariant.attemptBatch allowed kept ran
  | ended ran => exact invariant.attemptBatch allowed kept ran
  | batch ran rest ih => exact ih (invariant.attemptBatch allowed kept ran)

/-- Every call keeps what attempts and calling off keep, but for letting go. -/
theorem make (invariant : Invariant limited Kept) {call : Call} (held : call ≠ .drop)
    (allowed : call.HasDeadline → limited) (kept : Kept session) :
    Kept (session.make call).session := by
  have unlimited : (none : Option Nat) ≠ none → limited := fun absurd => (absurd rfl).elim
  cases call with
  | record =>
    rw [Session.make, Attempt.outcome_session]
    exact invariant.attempt unlimited kept
  | batch =>
    rw [Session.make, Attempt.outcome_session]
    exact invariant.attemptBatch unlimited kept rfl
  | cancel => exact invariant.cancel kept
  | collect bound =>
    rw [Session.make]
    -- Tables are turned down, which changes nothing, or gathered by attempts.
    rcases session.attemptCollect_cases bound with broken | ⟨attempt, collected, declined | gathers⟩
    · rw [broken]
      exact kept
    · obtain ⟨error, rfl⟩ := declined
      rw [collected]
      exact kept
    · rw [collected]
      refine Attempt.outcome_session _ attempt ▸ invariant.gather (fun some => allowed ?_) gathers kept
      -- The limit on time is there only if the call has one.
      exact fun none => some (by rw [deadline, none, Option.map_none])
  | drop => exact absurd rfl held

/-- A run keeps what attempts and calling off keep, as long as the export is not let go of. -/
theorem run (invariant : Invariant limited Kept) {calls : List Call} (held : .drop ∉ calls)
    (allowed : ∀ call ∈ calls, call.HasDeadline → limited) (kept : Kept session) :
    Kept (session.run calls).2 :=
  run_keeps (fun _ call member other => invariant.make other (allowed call member)) held kept

/-- A step of a stream keeps what attempts and calling off keep. -/
theorem step (invariant : Invariant True Kept) {pump next : Pump} (step : pump.Step next)
    (kept : Kept pump.session) : Kept next.session := by
  -- A reading attempt may be abandoned at any time, so it counts as limited.
  have after {limit : Option Nat} {attempt : Attempt (Option Record)}
      (ran : pump.session.attemptRecord limit = attempt) : Kept attempt.session :=
    ran ▸ invariant.attempt (fun _ => trivial) kept
  cases step with
  | brings wanted reading ran => exact after ran
  | ends wanted reading ran => exact after ran
  | fails wanted reading ran => exact after ran
  | stops => exact invariant.cancel kept
  | abandons unwanted reading time ran => exact invariant.cancel (after ran)
  -- All other steps leave the session alone.
  | offers => exact kept
  | reports => exact kept
  | takes => exact kept
  | givesUp => exact kept
  | forgets => exact kept

end Invariant

/-- The phases that an export can be in behind the calls on its engine, and what these say about the
engine. -/
inductive Stands (fresh : Session) (limited : Prop) : Phase → List EngineCall → Prop where
  /-- Nothing was asked of the engine. -/
  | idle : Stands fresh limited .idle []
  /-- The engine could not be started. -/
  | unstarted {error : Error} {kind : ErrorKind} {reason : String}
    (spawned : fresh.engine.spawnError = some error) :
    Stands fresh limited (.failed kind reason) [.spawn fresh.invocation.display]
  /-- The engine's output is being read. -/
  | streaming {decoder : Decoder} (spawned : fresh.engine.spawnError = none) :
    Stands fresh limited (.streaming decoder) [.spawn fresh.invocation.display]
  /-- The wait for the engine's end is given up. -/
  | leaving (spawned : fresh.engine.spawnError = none) (slow : fresh.engine.exitDelay ≠ 0)
    (hurried : limited) :
    Stands fresh limited .leaving [.spawn fresh.invocation.display, .wait]
  /-- The engine has ended as it should. -/
  | completed {report : ExitReport} (spawned : fresh.engine.spawnError = none)
    (exit : fresh.engine.exit = .ok report) :
    Stands fresh limited .completed [.spawn fresh.invocation.display, .wait]
  /-- The engine has not ended as it should. -/
  | refused {kind : ErrorKind} {reason : String} (spawned : fresh.engine.spawnError = none) :
    Stands fresh limited (.failed kind reason) [.spawn fresh.invocation.display, .wait]
  /-- The output could not be read, and the engine was told to end. -/
  | broken {kind : ErrorKind} {reason : String} (spawned : fresh.engine.spawnError = none) :
    Stands fresh limited (.failed kind reason)
      [.spawn fresh.invocation.display, .terminate fresh.grace]
  /-- The export was called off before the engine was started. -/
  | unread : Stands fresh limited .cancelled []
  /-- The export was called off, and the engine was told to end. -/
  | stopped (spawned : fresh.engine.spawnError = none) :
    Stands fresh limited .cancelled [.spawn fresh.invocation.display, .terminate fresh.grace]
  /-- The export was called off when the wait for the engine's end had been given up. -/
  | forsaken (spawned : fresh.engine.spawnError = none) (slow : fresh.engine.exitDelay ≠ 0)
    (hurried : limited) :
    Stands fresh limited .cancelled [.spawn fresh.invocation.display, .wait]

/-- A session that a fresh one has become, with an account of what its engine was asked. -/
structure Accounts (fresh : Session) (limited : Prop) (session : Session) : Prop where
  engine : session.engine = fresh.engine
  invocation : session.invocation = fresh.invocation
  request : session.request = fresh.request
  grace : session.grace = fresh.grace
  stands : Stands fresh limited session.phase session.calls

namespace Accounts

variable {fresh session : Session} {limited : Prop}

/-- While the output is being read, the engine was started and asked nothing else. -/
theorem streaming (accounts : Accounts fresh limited session) {decoder : Decoder}
    (phase : session.phase = .streaming decoder) :
    fresh.engine.spawnError = none ∧ session.calls = [.spawn fresh.invocation.display] := by
  have stands := accounts.stands
  rw [phase] at stands
  -- With the calls as a variable, the phase alone picks the case.
  generalize session.calls = calls at stands
  cases stands with
  | streaming spawned => exact ⟨spawned, rfl⟩

/-- Before the first reading nothing was asked of the engine. -/
theorem idle (accounts : Accounts fresh limited session) (phase : session.phase = .idle) :
    session.calls = [] := by
  have stands := accounts.stands
  rw [phase] at stands
  -- Of all accounts only an empty one leaves the export idle.
  generalize session.calls = calls at stands
  cases stands
  rfl

/-- Where the wait for the engine's end was given up, it takes time, and the time was limited. -/
theorem leaving (accounts : Accounts fresh limited session) (phase : session.phase = .leaving) :
    fresh.engine.spawnError = none ∧ fresh.engine.exitDelay ≠ 0 ∧ limited ∧
      session.calls = [.spawn fresh.invocation.display, .wait] := by
  have stands := accounts.stands
  rw [phase] at stands
  generalize session.calls = calls at stands
  cases stands with
  | leaving spawned slow hurried => exact ⟨spawned, slow, hurried, rfl⟩

/-- Without a call on the engine, only the phase has to fit the calls made before. -/
theorem moved (accounts : Accounts fresh limited session) {phase : Phase} {calls : List EngineCall}
    (delivered : UInt64) (made : session.calls = calls) (stands : Stands fresh limited phase calls) :
    Accounts fresh limited { session with phase, delivered } :=
  ⟨accounts.engine, accounts.invocation, accounts.request, accounts.grace, made ▸ stands⟩

/-- With one more call on the engine, the phase has to fit that call behind those made before. -/
theorem movedCalled (accounts : Accounts fresh limited session) {phase : Phase} {call : EngineCall}
    {calls : List EngineCall} (made : session.calls = calls)
    (stands : Stands fresh limited phase (calls ++ [call])) :
    Accounts fresh limited { session.called call with phase } := by
  rw [← made] at stands
  exact ⟨accounts.engine, accounts.invocation, accounts.request, accounts.grace, stands⟩

/-- An engine that settles an export well has brought a report. -/
theorem report_of_settle (settled : session.settle = .ok ()) :
    ∃ report, session.engine.exit = .ok report := by
  unfold settle at settled
  cases exit : session.engine.exit with
  | error error => simp [exit] at settled
  | ok report => exact ⟨report, rfl⟩

/-- A wait is given up only where it takes time and the time is limited. -/
theorem slow_of_late {limit : Option Nat} {time delay : Nat} (punctual : inTime limit time = true)
    (late : inTime limit (time + delay) = false) : delay ≠ 0 ∧ limit ≠ none := by
  constructor
  · -- A wait that takes no time would be over in time, as the output was.
    rintro rfl
    rw [Nat.add_zero, punctual] at late
    cases late
  · -- Without a limit nothing comes too late.
    rintro rfl
    cases late

section

variable {α : Type} {read : Decoder → Decoder.Answer α} {count : α → UInt64} {limit : Option Nat}

/-- Reading from an output keeps an account of the engine. -/
theorem reads {decoder held : Decoder} {result : Attempt (Option α)}
    (reads : Reads read count limit decoder session result)
    (accounts : Accounts fresh limited session) (phase : session.phase = .streaming held)
    (allowed : limit ≠ none → limited) : Accounts fresh limited result.session := by
  -- The engine was started and asked nothing else, so at most one call comes behind the start.
  obtain ⟨spawned, calls⟩ := accounts.streaming phase
  cases reads with
  | nothing => exact accounts
  | item brought => exact accounts.moved _ calls (.streaming spawned)
  | left ended punctual late =>
    obtain ⟨slow, some⟩ := slow_of_late punctual late
    exact accounts.movedCalled calls (.leaving spawned (accounts.engine ▸ slow) (allowed some))
  | completed ended settled =>
    obtain ⟨report, exit⟩ := report_of_settle settled
    exact accounts.movedCalled calls (.completed spawned (accounts.engine ▸ exit))
  | refused ended settled => exact accounts.movedCalled calls (.refused spawned)
  | broken failed =>
    -- The engine is given the time to end that the account speaks of.
    refine accounts.movedCalled calls ?_
    rw [accounts.grace]
    exact .broken spawned

/-- An attempt to read keeps an account of the engine. -/
theorem attempt (accounts : Accounts fresh limited session) (allowed : limit ≠ none → limited) :
    Accounts fresh limited (session.attempt read count limit).session := by
  have attempts : Attempts read count limit session (session.attempt read count limit) :=
    attempt_attempts session
  generalize session.attempt read count limit = result at attempts
  cases attempts with
  | unstarted idle spawned =>
    -- The start is the first call of all, and a failed one the last as well.
    refine accounts.movedCalled (accounts.idle idle) ?_
    rw [accounts.invocation]
    exact .unstarted (accounts.engine ▸ spawned)
  | started idle spawned opened reads =>
    -- Behind the start the account is that of a session that is being read from.
    refine Accounts.reads reads (accounts.movedCalled (accounts.idle idle) ?_) rfl allowed
    rw [accounts.invocation]
    exact .streaming (accounts.engine ▸ spawned)
  | reading streaming reads => exact Accounts.reads reads accounts streaming allowed
  | ended past => exact accounts
  | cancelled off => exact accounts
  | failed before => exact accounts

end

/-- Calling off keeps an account of the engine. -/
theorem cancel (accounts : Accounts fresh limited session) :
    Accounts fresh limited session.cancel.2 := by
  -- Only an engine whose output is being read is told to end.
  unfold Session.cancel
  cases phase : session.phase with
  | idle => exact accounts.moved _ (accounts.idle phase) .unread
  | streaming decoder =>
    obtain ⟨spawned, calls⟩ := accounts.streaming phase
    refine accounts.movedCalled calls ?_
    rw [accounts.grace]
    exact .stopped spawned
  | leaving =>
    -- An engine whose wait was given up is not asked anything any more.
    obtain ⟨spawned, slow, hurried, calls⟩ := accounts.leaving phase
    exact accounts.moved _ calls (.forsaken spawned slow hurried)
  | completed => exact accounts
  | cancelled => exact accounts
  | failed kind reason => exact accounts

/-- Attempts to read and calling off keep an account of the engine. -/
theorem invariant (fresh : Session) (limited : Prop) :
    Invariant limited (Accounts fresh limited) :=
  ⟨fun allowed accounts => accounts.attempt allowed, cancel⟩

/-- A fresh session has an account of its engine. -/
theorem start (idle : fresh.phase = .idle) (uncalled : fresh.calls = []) :
    Accounts fresh limited fresh := by
  refine ⟨rfl, rfl, rfl, rfl, ?_⟩
  rw [idle, uncalled]
  exact .idle

end Accounts

/-- Whether the engine was started. -/
def Started (session : Session) : Prop :=
  session.engine.spawnError = none ∧ .spawn session.invocation.display ∈ session.calls

/-- Whether the wait for the engine's end was answered, which has ended the export. -/
def Awaited (session : Session) : Prop :=
  .wait ∈ session.calls ∧
    (session.phase = .completed ∨ ∃ kind reason, session.phase = .failed kind reason)

/-- Whether the engine, if it was started, has answered the wait for its end with a report or was
told to end. -/
def Settled (session : Session) : Prop :=
  session.Started →
    (session.Awaited ∧ ∃ report, session.engine.exit = .ok report) ∨
      .terminate session.grace ∈ session.calls

/-- Whether the engine was waited for in vain: the wait has failed, or it was given up. -/
def Forsaken (session : Session) : Prop :=
  .wait ∈ session.calls ∧ ((∃ error, session.engine.exit = .error error) ∨ ¬session.Awaited)

namespace Accounts

variable {fresh session : Session} {limited : Prop}

/-- When an export is let go of, its engine is settled unless it was waited for in vain. -/
theorem release_settled (accounts : Accounts fresh limited session) :
    session.release.Settled ↔ ¬session.release.Forsaken := by
  obtain ⟨engine, invocation, request, grace, stands⟩ := accounts
  obtain ⟨_, _, _, _, phase, delivered, calls⟩ := session
  dsimp only at engine invocation request grace stands
  subst engine invocation request grace
  unfold release Settled Forsaken Started Awaited
  -- Each phase comes with the calls made, so both sides can be read off; only an engine whose output
  -- is still being read is told to end now.
  cases stands with
  | idle => simp
  | unstarted spawned => simp [spawned]
  | streaming spawned => simp [called]
  | leaving spawned slow hurried => simp [spawned]
  | completed spawned exit => simp [exit]
  | refused spawned => cases exit : fresh.engine.exit <;> simp [spawned]
  | broken spawned => simp
  | unread => simp
  | stopped spawned => simp
  | forsaken spawned slow hurried => simp [spawned]

/-- An engine is waited for in vain only where the wait fails, or takes time that is limited. -/
theorem of_forsaken (accounts : Accounts fresh limited session) (forsaken : session.Forsaken) :
    (∃ error, fresh.engine.exit = .error error) ∨ fresh.engine.exitDelay ≠ 0 ∧ limited := by
  obtain ⟨waited, failed | vain⟩ := forsaken
  · exact .inl (accounts.engine ▸ failed)
  · -- Without an answer to the wait, it was given up.
    have stands := accounts.stands
    unfold Awaited at vain
    generalize session.phase = phase at stands vain
    generalize session.calls = calls at stands vain waited
    cases stands with
    | leaving spawned slow hurried => exact .inr ⟨slow, hurried⟩
    | forsaken spawned slow hurried => exact .inr ⟨slow, hurried⟩
    -- An engine that has settled the export has answered the wait.
    | completed spawned exit => simp at vain
    | refused spawned => simp at vain
    -- In all other phases it was not waited for at all.
    | _ => simp at waited

end Accounts

/-- Nothing is let go of when an export is over. -/
theorem release_of_terminal {session : Session} (terminal : session.phase.isTerminal = true) :
    session.release = session := by
  unfold release
  cases phase : session.phase with
  -- Only an output that is being read is let go of, and that is no terminal phase.
  | streaming decoder => simp [phase, Phase.isTerminal] at terminal
  | _ => rfl

/-- What an engine was asked before an export is let go of, it was asked behind it. -/
theorem forsaken_of_release {session : Session} (forsaken : session.release.Forsaken) :
    session.Forsaken := by
  -- Letting go may add that the engine is told to end, which is no wait.
  unfold release at forsaken
  split at forsaken
  · obtain ⟨waited, rest⟩ := forsaken
    have before : .wait ∈ session.calls := by simpa [called] using waited
    refine ⟨before, rest.imp id fun vain answered => vain ⟨waited, answered.2⟩⟩
  · exact forsaken

end EngineClient.Session

namespace EngineClient.Pump

open Session

/-- A stream comes to be as another one is, by steps. -/
def Reaches [Platform] : Pump → Pump → Prop :=
  Relation.ReflTransGen Step

/-- Whether the reading task goes on with the export no more. -/
def IsOver (pump : Pump) : Prop :=
  pump.task.isActive = false

/-- Calling off leaves nothing to be let go of. -/
theorem release_cancel (session : Session) : session.cancel.2.release = session.cancel.2 := by
  unfold Session.cancel release
  cases phase : session.phase <;> simp [Phase.isTerminal, phase, called]

variable [Platform]

/-- A reading that brings no event leaves nothing to be let go of. -/
theorem release_of_reads {decoder : Decoder} {session after : Session}
    {answer : Except Error (Option Record)}
    (reads : Reads Decoder.nextRecord (fun _ => 1) none decoder session (.answered answer after))
    (bare : ∀ record, answer ≠ .ok (some record)) : after.release = after := by
  cases reads with
  | item brought => exact absurd rfl (bare _)
  -- Whatever else a reading is answered with ends the export.
  | completed ended settled => rfl
  | refused ended settled => rfl
  | broken failed => rfl

/-- An attempt to read that brings no event leaves nothing to be let go of. -/
theorem release_of_attempt {session after : Session} {answer : Except Error (Option Record)}
    (ran : session.attemptRecord none = .answered answer after)
    (bare : ∀ record, answer ≠ .ok (some record)) : after.release = after := by
  have attempts : Attempts Decoder.nextRecord (fun _ => 1) none session (.answered answer after) :=
    ran ▸ attempt_attempts session
  cases attempts with
  | unstarted idle spawned => rfl
  | started idle spawned opened reads => exact release_of_reads reads bare
  | reading streaming reads => exact release_of_reads reads bare
  -- An export that is past its output stays in a phase that holds none.
  | ended past => rcases past with past | past <;> simp [release, past]
  | cancelled off => simp [release, off]
  | failed before => simp [release, before]

section

variable {pump next : Pump}

/-- Once its task goes on no more, a stream has nothing left to be let go of. -/
theorem Step.released (step : pump.Step next)
    (before : pump.IsOver → pump.session.release = pump.session) (done : next.IsOver) :
    next.session.release = next.session := by
  -- The task ends when the export does or calls it off, and keeps it as long as it is active.
  cases step with
  | brings wanted reading ran => cases done
  | offers => cases done
  -- With an end or a failure, the export itself has come to a phase that holds no output.
  | ends wanted reading ran => exact release_of_attempt ran (by simp)
  | fails wanted reading ran => exact release_of_attempt ran (by simp)
  | stops => exact release_cancel _
  | abandons => exact release_cancel _
  -- The other steps of a task that is over already do nothing to the export.
  | reports failing free => exact before (by rw [IsOver, failing]; rfl)
  | takes => exact before done
  | givesUp => exact before done
  | forgets unwanted failing => exact before (by rw [IsOver, failing]; rfl)

/-- A stream that is not wanted any more is over at its next step. -/
theorem Step.isOver (step : pump.Step next) (unwanted : pump.wanted = false) : next.IsOver := by
  -- Every step that goes on with the export is made only while the stream is wanted; the others
  -- leave a task that is failing or has ended.
  cases step with
  | reports => rfl
  | stops => rfl
  | abandons => rfl
  | forgets unwanted failing => rfl
  | _ wanted => cases wanted.symm.trans unwanted

/-- A stream that is not wanted any more has a next step, or is over. -/
theorem isOver_or_step (unwanted : pump.wanted = false) : pump.IsOver ∨ ∃ next, pump.Step next := by
  cases active : pump.task.isActive with
  | false => exact .inl active
  | true => exact .inr ⟨_, .stops unwanted active⟩

variable {fresh : Session} {limited : Prop}

/-- A stream keeps an account of the engine, and lets go of nothing once it is over. -/
theorem Reaches.accounts (reaches : pump.Reaches next)
    (accounts : Accounts fresh True pump.session) (active : pump.task = .reading) :
    Accounts fresh True next.session ∧ (next.IsOver → next.session.release = next.session) := by
  -- The induction is on the steps, from a task that is still reading.
  induction reaches with
  | refl => exact ⟨accounts, fun done => by rw [IsOver, active] at done; cases done⟩
  | tail before step ih =>
    exact ⟨(Accounts.invariant fresh True).step step ih.1, step.released ih.2⟩

/-- Once a stream is over, its engine is settled unless it was waited for in vain. -/
theorem Reaches.settled (reaches : pump.Reaches next)
    (accounts : Accounts fresh True pump.session) (active : pump.task = .reading)
    (done : next.IsOver) :
    (next.session.Settled ↔ ¬next.session.Forsaken) ∧
      (next.session.Forsaken →
        (∃ error, fresh.engine.exit = .error error) ∨ fresh.engine.exitDelay ≠ 0) := by
  obtain ⟨accounts, released⟩ := reaches.accounts accounts active
  -- Nothing is left to be let go of, so what holds behind that holds already.
  have settled := accounts.release_settled
  rw [released done] at settled
  exact ⟨settled, fun forsaken => (accounts.of_forsaken forsaken).imp_right And.left⟩

end

/-- A stream is cancelled behind some steps, and comes to be as another one is. -/
def IsCancelled (pump last : Pump) : Prop :=
  ∃ (wanted : Pump) (off : Session), pump.Reaches wanted ∧ wanted.wanted = true ∧
    wanted.Cancels off last

/-- A stream that is cancelled comes to its end by steps. -/
theorem Cancels.reaches {pump last : Pump} {off : Session} (cancels : pump.Cancels off last)
    (wanted : pump.wanted = true) : pump.Reaches last := by
  have first : pump.Reaches { pump with wanted := false } := .single (.givesUp wanted)
  -- Giving up comes first, and then what the task does by itself.
  cases cancels with
  | stops active => exact first.tail (.stops rfl active)
  | abandons reading time ran => exact first.tail (.abandons rfl reading time ran)
  | reports failing free => exact first.tail (.reports failing free)
  | ended done => exact first

/-- The task of a stream that was cancelled has ended. -/
theorem Cancels.task {pump last : Pump} {off : Session} (cancels : pump.Cancels off last) :
    last.task = .ended := by
  cases cancels with
  | ended done => exact done
  | _ => rfl

/-- Steps that are taken before a stream is cancelled come before the others. -/
theorem IsCancelled.behind {pump middle last : Pump} (reaches : pump.Reaches middle)
    (cancelled : middle.IsCancelled last) : pump.IsCancelled last := by
  obtain ⟨wanted, off, others, kept, cancels⟩ := cancelled
  exact ⟨wanted, off, reaches.trans others, kept, cancels⟩

/-- What becomes of an export whose stream is given up, its two tasks bring about step by step. -/
theorem giveUp_cancels (session : Session) (before : List (Except Error Record)) :
    ∃ last, IsCancelled { session, taken := before } last ∧ last.session = session.giveUp ∧
      last.taken = before := by
  unfold giveUp
  -- What is there without a wait is read first; otherwise the reading is abandoned.
  split <;> rename_i ran
  · exact ⟨_, ⟨_, _, .single (.brings rfl rfl (attempt_answered ran)), rfl, .stops rfl⟩, rfl, rfl⟩
  · -- An end or a failure that is there already ends the task before it hears anything.
    rename_i answer after bare
    cases answer with
    | error error =>
      exact ⟨_, ⟨_, _, .single (.fails rfl rfl (attempt_answered ran)), rfl, .reports rfl rfl⟩, rfl,
        rfl⟩
    | ok item => cases item with
      | none =>
        exact ⟨_, ⟨_, _, .single (.ends rfl rfl (attempt_answered ran)), rfl, .ended rfl⟩, rfl, rfl⟩
      | some record => exact absurd rfl (bare record)
  · exact ⟨_, ⟨_, _, .refl, rfl, .abandons rfl _ ran⟩, rfl, rfl⟩

/-- What is taken from a stream that is then given up, its two tasks bring about step by step. -/
theorem takeItems_cancels {most : Option Nat} {session : Session} {taken : Taken}
    (ran : session.takeItems most = some taken) (before : List (Except Error Record)) :
    ∃ last, IsCancelled { session, taken := before } last ∧ last.session = taken.session ∧
      last.taken = before ++ taken.items := by
  -- The induction is on the events taken: each is read, handed over and taken.
  fun_induction takeItems most session generalizing before taken with
  | case1 session =>
    cases ran
    obtain ⟨last, cancelled, ends, items⟩ := giveUp_cancels session before
    exact ⟨last, cancelled, ends, by rw [items, List.append_nil]⟩
  | case2 => cases ran
  | case3 most session going error after brought =>
    cases ran
    -- A failure is handed over as the last item.
    have reaches : Reaches { session, taken := before }
        { session := after, task := .ended, taken := before ++ [.error error] } :=
      ((Relation.ReflTransGen.single (.fails rfl rfl brought)).tail
        (.reports rfl rfl)).tail (.takes rfl rfl)
    exact ⟨_, ⟨_, _, reaches, rfl, .ended rfl⟩, rfl, rfl⟩
  | case4 most session going after brought =>
    cases ran
    exact ⟨_, ⟨_, _, .single (.ends rfl rfl brought), rfl, .ended rfl⟩, rfl,
      (List.append_nil _).symm⟩
  | case5 most session going record after brought ih =>
    obtain ⟨others, behind, rfl⟩ := Option.map_eq_some_iff.mp ran
    -- Behind the event the task reads again, with one item more taken.
    have first : Reaches { session, taken := before }
        { session := after, taken := before ++ [.ok record] } :=
      ((Relation.ReflTransGen.single (.brings rfl rfl brought)).tail
        (.offers rfl rfl rfl)).tail (.takes rfl rfl)
    obtain ⟨last, cancelled, ends, items⟩ := ih behind (before ++ [.ok record])
    refine ⟨last, cancelled.behind first, ends, ?_⟩
    rw [items, Taken.cons, List.append_assoc]
    rfl

/-- What a stream comes to that is given up behind a number of events, its two tasks bring about
step by step. -/
theorem stream_cancels {most : Option Nat} {session : Session} {taken : Taken}
    (ran : session.stream most = some taken) :
    ∃ last, IsCancelled { session } last ∧ last.session = taken.session ∧
      last.taken = taken.items := by
  unfold stream at ran
  split at ran
  · -- A stream of which nothing is wanted is given up before anything is read.
    cases ran
    exact ⟨_, ⟨_, _, .refl, rfl, .stops rfl⟩, rfl, rfl⟩
  · obtain ⟨last, cancelled, ends, items⟩ := takeItems_cancels ran []
    exact ⟨last, cancelled, ends, items⟩

/-- What a stream comes to that is given up behind a number of events is reached by steps, and over. -/
theorem stream_reaches {most : Option Nat} {session : Session} {taken : Taken}
    (ran : session.stream most = some taken) :
    ∃ last, Reaches { session } last ∧ last.IsOver ∧ last.session = taken.session ∧
      last.taken = taken.items := by
  obtain ⟨last, ⟨wanted, off, reaches, kept, cancels⟩, ends, items⟩ := stream_cancels ran
  -- A task that was cancelled has ended.
  have done : last.IsOver := by
    rw [IsOver, cancels.task]
    rfl
  exact ⟨last, reaches.trans (cancels.reaches kept), done, ends, items⟩

end EngineClient.Pump

namespace EngineClient.Session

section

variable [Platform]

/-- Once a fresh export is over or let go of, its engine is settled unless it was waited for in vain,
which takes a wait that fails or one that takes time for which there is a deadline. -/
theorem run_settled (engine : Engine) (invocation : Invocation) (request : ExportRequest)
    (grace : Nat) (calls : List Call) :
    let fresh : Session := { engine, invocation, request, grace }
    .dropped ∈ (fresh.run calls).1 ∨ (fresh.run calls).2.phase.isTerminal = true →
    ((fresh.run calls).2.Settled ↔ ¬(fresh.run calls).2.Forsaken) ∧
    ((fresh.run calls).2.Forsaken → (∃ error, engine.exit = .error error) ∨
      engine.exitDelay ≠ 0 ∧ ∃ call ∈ calls, call.HasDeadline) := by
  intro fresh done
  -- The calls before the export is let go of keep the account; those behind it change nothing.
  obtain ⟨others, front, held, ends⟩ := run_ends calls fresh
  -- Only a call among those made can have had a deadline.
  have accounts : Accounts fresh (∃ call ∈ calls, call.HasDeadline) (fresh.run others).2 :=
    (Accounts.invariant fresh _).run held
      (fun call member deadline => ⟨call, front.subset member, deadline⟩) (.start rfl rfl)
  have released : (fresh.run calls).2 = (fresh.run others).2.release := by
    rcases ends with ⟨same, absent⟩ | released
    · -- An export that is over without having been let go of is as if it had been.
      have terminal := done.resolve_left absent
      rw [same] at terminal ⊢
      exact (release_of_terminal terminal).symm
    · exact released
  rw [released]
  exact ⟨accounts.release_settled, fun forsaken =>
    accounts.of_forsaken (forsaken_of_release forsaken)⟩

/-- Whatever is called on a fresh export, and however it is used as a stream, an engine that was
started has answered the wait for its end with a report or was told to end as soon as the export is
over or let go of, exactly if it was not waited for in vain. That it is, takes an engine whose end
cannot be waited for, or a wait that takes time and a deadline for it. -/
theorem settled_iff_not_forsaken (engine : Engine) (invocation : Invocation)
    (request : ExportRequest) (grace : Nat) :
    let fresh : Session := { engine, invocation, request, grace }
    (∀ calls : List Call,
      .dropped ∈ (fresh.run calls).1 ∨ (fresh.run calls).2.phase.isTerminal = true →
      ((fresh.run calls).2.Settled ↔ ¬(fresh.run calls).2.Forsaken) ∧
      ((fresh.run calls).2.Forsaken → (∃ error, engine.exit = .error error) ∨
        engine.exitDelay ≠ 0 ∧ ∃ call ∈ calls, call.HasDeadline)) ∧
    (∀ (calls : List Call) (pump : Pump), .drop ∉ calls →
      Pump.Reaches { session := (fresh.run calls).2 } pump →
      (pump.IsOver → (pump.session.Settled ↔ ¬pump.session.Forsaken) ∧
        (pump.session.Forsaken → (∃ error, engine.exit = .error error) ∨ engine.exitDelay ≠ 0)) ∧
      (pump.wanted = false → (pump.IsOver ∨ ∃ next, pump.Step next) ∧
        ∀ next, pump.Step next → next.IsOver)) ∧
    (∀ (calls : List Call) (most : Option Nat) (taken : Taken), .drop ∉ calls →
      (fresh.run calls).2.stream most = some taken →
      (taken.session.Settled ↔ ¬taken.session.Forsaken)) := by
  intro fresh
  -- A stream begins where the calls have left the export, and may be given up at any time.
  have start (calls : List Call) (held : .drop ∉ calls) : Accounts fresh True (fresh.run calls).2 :=
    (Accounts.invariant fresh True).run held (fun _ _ _ => trivial) (.start rfl rfl)
  refine ⟨fun calls done => ?_, fun calls pump held reaches => ⟨fun done => ?_, fun unwanted => ?_⟩,
    fun calls most taken held ran => ?_⟩
  · exact run_settled engine invocation request grace calls done
  · exact reaches.settled (start calls held) rfl done
  · exact ⟨Pump.isOver_or_step unwanted, fun next step => step.isOver unwanted⟩
  · -- What is taken and then given up, the two tasks of the stream bring about.
    obtain ⟨last, reaches, done, ends, items⟩ := Pump.stream_reaches ran
    rw [← ends]
    exact (reaches.settled (start calls held) rfl done).1

end

/-- An export of an engine whose end cannot be waited for. -/
def unanswered : Session where
  engine := { exit := .error { kind := .io, message := some "failed to wait for engine" } }
  invocation := ⟨"tenzir-ctl", ["--endpoint=h:1", "export", "json"]⟩
  request := {}
  grace := 3000

/-- An export of an engine that takes its time to end. -/
def lingering : Session where
  engine := { exitDelay := 10 }
  invocation := ⟨"tenzir-ctl", ["--endpoint=h:1", "export", "arrow"]⟩
  request := { encoding := .arrow }
  grace := 3000

/-- The engine is started, and the wait for its end fails. -/
theorem unanswered_record [Platform] :
    unanswered.attemptRecord none = .answered
      (.error { kind := .io, message := some "failed to wait for engine" })
      { unanswered with
        calls := [.spawn unanswered.invocation.display, .wait]
        phase := .failed .io "Io: failed to wait for engine" } := by
  -- The engine writes nothing, so the first reading comes to the wait.
  have ended : Json.Lines.next { source := { events := [] } }
      = some (.ok none, { source := { events := [] } }) := by
    rw [Json.Lines.next_eq]
    rfl
  rw [attemptRecord, attempt_started rfl rfl rfl]
  simp only [readFrom, Decoder.nextRecord, Decoder.ofSource, unanswered, ended]
  rfl

/-- The engine is started, and the wait for its end is given up when the time is over. -/
theorem lingering_batch [Platform] :
    lingering.attemptBatch (some 5) = .late
      { lingering with
        calls := [.spawn lingering.invocation.display, .wait]
        phase := .leaving } := by
  -- The output ends at once, but the engine takes longer than there is time.
  have ended : Arrow.Batches.nextBatch { source := { events := [] } }
      = some (.ok none, { source := { events := [] } }) := by
    simp only [Arrow.Batches.nextBatch]
    rw [Arrow.Batches.fetch_eq]
    rfl
  rw [attemptBatch_eq rfl, attempt_started rfl rfl rfl]
  simp only [readFrom, Decoder.nextBatch, Decoder.ofSource, lingering, ended]
  rfl

/-- Gathering calls the export off whose wait was given up. -/
theorem lingering_gather [Platform] :
    lingering.gather (some 5) none 0 {} = .answered (.ok {})
      { lingering with
        calls := [.spawn lingering.invocation.display, .wait]
        phase := .cancelled } := by
  have gathers : Gathers (some 5) none 0 {} lingering (lingering.gather (some 5) none 0 {}) :=
    gather_gathers 0 {} lingering
  generalize lingering.gather (some 5) none 0 {} = result at gathers
  have late := lingering_batch
  -- Of the ways of gathering, only one begins with an attempt that comes too late.
  cases gathers with
  | reached plenty => cases plenty
  | stopped ran limited =>
    rw [late] at ran
    cases ran
    rfl
  | stuck ran unlimited => cases unlimited
  | failed ran => cases late.symm.trans ran
  | ended ran => cases late.symm.trans ran
  | batch ran rest => cases late.symm.trans ran

open scoped Platform in
/-- An engine whose end cannot be waited for is let go of without having been told to end, and so is
one whose end takes longer than there is time for it. -/
theorem not_settled_in_vain :
    ((unanswered.run [.record]).2.phase.isTerminal = true ∧
      ¬(unanswered.run [.record]).2.Settled) ∧
    ((lingering.run [.collect { timeout := some 5 }]).2.phase.isTerminal = true ∧
      ¬(lingering.run [.collect { timeout := some 5 }]).2.Settled) := by
  constructor
  · simp only [run, make, unanswered_record, Attempt.outcome, reduceCtorEq, if_false]
    simp [Settled, Started, unanswered, Phase.isTerminal]
  · -- The deadline is one that the clock can tell.
    have collected : lingering.attemptCollect { timeout := some 5 }
        = some (lingering.gather (some 5) none 0 {}) := rfl
    simp only [run, make, collected, lingering_gather, Attempt.outcome, reduceCtorEq, if_false]
    simp [Settled, Started, Awaited, lingering, Phase.isTerminal]

end EngineClient.Session
