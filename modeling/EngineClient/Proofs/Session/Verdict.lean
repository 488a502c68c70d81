import EngineClient.Proofs.Decoder
import EngineClient.Proofs.Engine.Exit
import EngineClient.Proofs.Session.Attempts

/-! How an export ends that is read event by event until none comes any more. -/

namespace EngineClient.Session

/-- The reader that is opened on the engine's output. -/
def opened (fresh : Session) : Decoder :=
  Decoder.ofSource fresh.request.encoding { events := fresh.engine.output }

/-- What the end of the output means for the export, or a failure to read it. -/
def verdict (session : Session) : Except Error Unit → Except Error Unit
  | .ok () => session.settle
  | .error error => .error (explain error session.engine.terminated)

/-- The phase of an export that has ended. -/
def endPhase : Except Error Unit → Phase
  | .ok () => .completed
  | .error error => .failed error.kind error.display

/-- An export ends by its own verdict on what its reader comes to, behind the same events. -/
theorem exhausts_of_reader [Platform] {decoder rest : Decoder} {records : List Record}
    {last : Except Error Unit} (reads : Exhausts Decoder.nextRecord decoder records last rest)
    {session : Session} (streaming : session.phase = .streaming decoder) :
    ∃ after, Exhausts nextRecord session records (session.verdict last) after ∧
      after.phase = endPhase (session.verdict last) := by
  -- The induction is on the events; the verdict hangs on nothing that they change.
  induction reads generalizing session with
  | ended answered =>
    -- At the end of the output the engine is waited for, and its end settles the export.
    have ran : session.nextRecord = some ((session.called .wait).finish.1.map fun _ => none,
        (session.called .wait).finish.2) := by
      rw [nextRecord, attemptRecord, attempt_streaming streaming, readFrom_unlimited answered]
      rfl
    have same : (session.called .wait).settle = session.settle := rfl
    rw [finish, same] at ran
    cases settled : session.settle with
    | ok nothing =>
      rw [settled] at ran
      exact ⟨_, by simpa only [verdict, settled] using .ended ran, by rw [verdict, settled]; rfl⟩
    | error error =>
      rw [settled] at ran
      exact ⟨_, by simpa only [verdict, settled] using .failed ran, by rw [verdict, settled]; rfl⟩
  | @failed _ _ error answered =>
    -- A failure to read tells the engine to end, and adds what it has left.
    have ran : session.nextRecord
        = some (.error (session.abort error).1, (session.abort error).2) := by
      rw [nextRecord, attemptRecord, attempt_streaming streaming, readFrom_unlimited answered]
      rfl
    exact ⟨_, .failed ran, rfl⟩
  | @item _ next _ record _ _ answered behind ih =>
    -- An event is handed out as it was read, and the reader goes on from what it leaves.
    let onward : Session :=
      { session with phase := .streaming next, delivered := session.delivered + 1 }
    have ran : session.nextRecord = some (.ok (some record), onward) := by
      rw [nextRecord, attemptRecord, attempt_streaming streaming, readFrom_unlimited answered]
      rfl
    have phase : onward.phase = .streaming next := rfl
    obtain ⟨after, exhausts, phase⟩ := ih phase
    exact ⟨after, .item ran exhausts, phase⟩

/-- A fresh export whose engine can be started ends by its verdict on what the engine writes. -/
theorem exhausts_of_opened [Platform] {fresh : Session} (idle : fresh.phase = .idle)
    (spawned : fresh.engine.spawnError = none) {records : List Record} {last : Except Error Unit}
    {rest : Decoder} (reads : Exhausts Decoder.nextRecord fresh.opened records last rest) :
    ∃ after, Exhausts nextRecord fresh records (fresh.verdict last) after ∧
      after.phase = endPhase (fresh.verdict last) := by
  -- The first call starts the engine, and then reads as every other does.
  let started : Session :=
    { fresh.called (.spawn fresh.invocation.display) with phase := .streaming fresh.opened }
  have streaming : started.phase = .streaming fresh.opened := rfl
  have same : fresh.nextRecord = started.nextRecord := by
    rw [nextRecord, nextRecord, attemptRecord, attemptRecord, attempt_started idle spawned rfl,
      attempt_streaming streaming]
    rfl
  obtain ⟨after, exhausts, phase⟩ := exhausts_of_reader reads streaming
  exact ⟨after, exhausts.of_same same, phase⟩

/-- What it takes for an export to end as it should. -/
structure EndsWell [Platform] (fresh : Session) : Prop where
  spawned : fresh.engine.spawnError = none
  read : ∃ records rest, Exhausts Decoder.nextRecord fresh.opened records (.ok ()) rest
  exited : ∃ report, fresh.engine.exit = .ok report ∧ report.code = some 0
  bounded : fresh.request.mode = .historical ∨ fresh.request.maxEvents ≠ none

/-- The error output of an engine that was told to end, if it is there and not blank. -/
def heard : Except Error ExitReport → Option String
  | .ok report =>
    if (Text.trimList Text.isBlank report.stderr.toList).isEmpty then none else some report.stderr
  | .error _ => none

/-- The failures that an export can end with behind some events, and what leads to them. -/
inductive Fails [Platform] (fresh : Session) : List Record → Error → Prop where
  /-- The engine cannot be started. -/
  | unstarted {error : Error} (spawned : fresh.engine.spawnError = some error) :
    Fails fresh [] error
  /-- The output cannot be read, or something of it cannot be made sense of. -/
  | broken {records : List Record} {found : Error} {rest : Decoder}
    (spawned : fresh.engine.spawnError = none)
    (read : Exhausts Decoder.nextRecord fresh.opened records (.error found) rest)
    (kind : found.kind = .io ∨ found.kind = .protocol) (bare : found.stderr = none) :
    Fails fresh records { found with stderr := heard fresh.engine.terminated }
  /-- The wait for the engine's end fails. -/
  | unanswered {records : List Record} {error : Error} {rest : Decoder}
    (spawned : fresh.engine.spawnError = none)
    (read : Exhausts Decoder.nextRecord fresh.opened records (.ok ()) rest)
    (exit : fresh.engine.exit = .error error) : Fails fresh records error
  /-- The engine has ended with another code than zero. -/
  | refused {records : List Record} {error : Error} {rest : Decoder} {report : ExitReport}
    (spawned : fresh.engine.spawnError = none)
    (read : Exhausts Decoder.nextRecord fresh.opened records (.ok ()) rest)
    (exit : fresh.engine.exit = .ok report) (code : report.code ≠ some 0)
    (checked : report.check fresh.invocation = .error error)
    (kind : error.kind = .unreachable ∨ error.kind = .execution) : Fails fresh records error
  /-- The engine has ended with code zero where it should have gone on. -/
  | early {records : List Record} {error : Error} {rest : Decoder} {report : ExitReport}
    (spawned : fresh.engine.spawnError = none)
    (read : Exhausts Decoder.nextRecord fresh.opened records (.ok ()) rest)
    (exit : fresh.engine.exit = .ok report) (code : report.code = some 0)
    (live : fresh.request.mode ≠ .historical) (unlimited : fresh.request.maxEvents = none)
    (ended : error = fresh.endedError report.stderr) (kind : error.kind = .execution) :
    Fails fresh records error

/-- An export may end by itself if it covers stored events only, or a number of them. -/
theorem mayEnd_iff (request : ExportRequest) :
    mayEnd request = true ↔ request.mode = .historical ∨ request.maxEvents ≠ none := by
  rw [mayEnd, Bool.or_eq_true, Option.isSome_iff_ne_none]
  cases request.mode <;> simp [ExportMode.isFinite]

/-- A failure without error output is explained by what the engine has left. -/
theorem explain_bare {error : Error} (bare : error.stderr = none)
    (terminated : Except Error ExitReport) :
    explain error terminated = { error with stderr := heard terminated } := by
  obtain ⟨kind, message, hint, stderr, raw, exitCode, input, causes⟩ := error
  obtain rfl : stderr = none := bare
  cases terminated with
  | error error => rfl
  | ok report =>
    -- Both leave blank text out.
    simp only [explain, heard, Error.withStderr]
    split <;> rfl

section

variable {fresh : Session}

/-- The engine's end is as it should be exactly with code zero, where the export may end. -/
theorem settle_eq_ok_iff : fresh.settle = .ok () ↔
    (∃ report, fresh.engine.exit = .ok report ∧ report.code = some 0) ∧
      (fresh.request.mode = .historical ∨ fresh.request.maxEvents ≠ none) := by
  rw [← mayEnd_iff, settle]
  -- The wait is answered first, the code checked second, and only then it is asked who may end.
  cases exit : fresh.engine.exit with
  | error error => simp
  | ok report =>
    cases checked : report.check fresh.invocation with
    | error error =>
      simp [checked, (ExitReport.check_error checked).1]
    | ok nothing =>
      -- The check has passed, so the code is zero, and the request decides.
      have zero := (ExitReport.check_eq_ok_iff report fresh.invocation).mp checked
      simp [checked, zero]

/-- An engine's end that is not as it should be fails the export for one of three reasons. -/
theorem fails_of_settle [Platform] {records : List Record} {rest : Decoder} {error : Error}
    (spawned : fresh.engine.spawnError = none)
    (read : Exhausts Decoder.nextRecord fresh.opened records (.ok ()) rest)
    (settled : fresh.settle = .error error) : Fails fresh records error := by
  unfold settle at settled
  cases exit : fresh.engine.exit with
  | error error =>
    -- The failure of the wait is handed on as it is.
    simp only [exit] at settled
    cases settled
    exact .unanswered spawned read exit
  | ok report =>
    simp only [exit] at settled
    cases checked : report.check fresh.invocation with
    | error error =>
      -- So is what the check makes of the code.
      simp only [checked] at settled
      cases settled
      obtain ⟨code, kind⟩ := ExitReport.check_error checked
      exact .refused spawned read exit code checked kind
    | ok nothing =>
      simp only [checked] at settled
      split at settled
      · cases settled
      · -- An export that should have gone on has no right to end well.
        rename_i endless
        cases settled
        rw [mayEnd_iff, not_or, not_not] at endless
        have zero := (ExitReport.check_eq_ok_iff report fresh.invocation).mp checked
        exact .early spawned read exit zero endless.1 endless.2 rfl (Error.withStderr_kind _ _)

end

section

variable [Platform]

/-- How an export has ended that was read event by event until none came any more. -/
structure Verdict (fresh : Session) (records : List Record) (last : Except Error Unit)
    (after : Session) : Prop where
  /-- It ends as it should exactly if it can. -/
  endsWell : last = .ok () ↔ fresh.EndsWell
  /-- It is completed then, and all events were handed out that the output holds. -/
  completed : last = .ok () → after.phase = .completed ∧
    ∃ rest, Exhausts Decoder.nextRecord fresh.opened records (.ok ()) rest
  /-- It has failed otherwise, with the failure that it has answered. -/
  failed : ∀ error, last = .error error →
    after.phase = .failed error.kind error.display ∧ Fails fresh records error

/-- An export that cannot end as it should has failed for a reason. -/
theorem Verdict.of_fails {fresh after : Session} {records : List Record} {error : Error}
    (phase : after.phase = .failed error.kind error.display) (fails : Fails fresh records error)
    (ill : ¬fresh.EndsWell) : Verdict fresh records (.error error) after := by
  -- A failure is no good end, so only the last part has something to show.
  constructor
  · exact ⟨(nomatch ·), fun well => absurd well ill⟩
  · exact (nomatch ·)
  · intro other same
    cases same
    exact ⟨phase, fails⟩

section

variable {fresh : Session} (idle : fresh.phase = .idle)
include idle

/-- An export whose engine cannot be started fails at once. -/
theorem verdict_unstarted {error : Error} (spawned : fresh.engine.spawnError = some error) :
    ∃ after, Exhausts nextRecord fresh [] (.error error) after ∧
      Verdict fresh [] (.error error) after := by
  have ran : fresh.nextRecord = some (.error error,
      (fresh.called (.spawn fresh.invocation.display)).fail error) := by
    rw [nextRecord, attemptRecord, attempt_unstarted idle spawned]
    rfl
  refine ⟨_, .failed ran, .of_fails rfl (.unstarted spawned) fun well => ?_⟩
  -- An export that ends well has started its engine.
  have started := well.spawned
  rw [spawned] at started
  cases started

/-- An export whose output cannot be read to the end fails behind the events before. -/
theorem verdict_broken (spawned : fresh.engine.spawnError = none) {records : List Record}
    {found : Error} {rest : Decoder}
    (read : Exhausts Decoder.nextRecord fresh.opened records (.error found) rest)
    (ofOutput : found.IsOfOutput) :
    ∃ last after, Exhausts nextRecord fresh records last after ∧
      Verdict fresh records last after := by
  obtain ⟨after, exhausts, phase⟩ := exhausts_of_opened idle spawned read
  have explained : fresh.verdict (.error found)
      = .error { found with stderr := heard fresh.engine.terminated } :=
    congrArg Except.error (explain_bare ofOutput.bare fresh.engine.terminated)
  rw [explained] at exhausts phase
  refine ⟨_, after, exhausts,
    .of_fails phase (.broken spawned read ofOutput.kind ofOutput.bare) fun well => ?_⟩
  -- The output has one end only, and that is a failure.
  obtain ⟨others, behind, toEnd⟩ := well.read
  cases (read.unique toEnd).2.1

/-- An export whose output can be read to the end is settled by the engine's end. -/
theorem verdict_settled (spawned : fresh.engine.spawnError = none) {records : List Record}
    {rest : Decoder} (read : Exhausts Decoder.nextRecord fresh.opened records (.ok ()) rest) :
    ∃ last after, Exhausts nextRecord fresh records last after ∧
      Verdict fresh records last after := by
  obtain ⟨after, exhausts, phase⟩ := exhausts_of_opened idle spawned read
  refine ⟨_, after, exhausts, ?_⟩
  -- The last answer is what the engine's end settles, so all three parts are about that.
  constructor
  · refine ⟨fun well => ?_, fun well => settle_eq_ok_iff.mpr ⟨well.exited, well.bounded⟩⟩
    obtain ⟨exited, bounded⟩ := settle_eq_ok_iff.mp well
    exact ⟨spawned, ⟨records, rest, read⟩, exited, bounded⟩
  · intro well
    rw [well] at phase
    exact ⟨phase, rest, read⟩
  · -- A failure that is settled is one of the kinds that the end of an engine has.
    intro error failed
    rw [failed] at phase
    exact ⟨phase, fails_of_settle spawned read failed⟩

end

/-- An export of an engine that writes an empty object on one line. -/
def emptyObject : Session where
  engine := { output := [.data [123, 125, 10]] }
  invocation := ⟨"tenzir-ctl", ["export", "json"]⟩
  request := {}
  grace := 3000

/-- The object is the only event of the output. -/
theorem emptyObject_read : ∃ rest,
    Exhausts Decoder.nextRecord emptyObject.opened [⟨none, []⟩] (.ok ()) rest := by
  -- The first line is the object, and there is no second one.
  have first : Json.Lines.next { source := { events := [.data [123, 125, 10]] } }
      = some (.ok (some ⟨none, []⟩), { source := { events := [] }, count := 1 }) := by
    rw [Json.Lines.next_eq]
    rfl
  have last : Json.Lines.next { source := { events := [] }, count := 1 }
      = some (.ok none, { source := { events := [] }, count := 1 }) := by
    rw [Json.Lines.next_eq]
    rfl
  -- The reader of the export reads these lines.
  have event : emptyObject.opened.nextRecord
      = some (.ok (some ⟨none, []⟩), .json { source := { events := [] }, count := 1 }) := by
    simp only [Decoder.nextRecord, opened, Decoder.ofSource, emptyObject, first, Option.map_some]
  have ended : (Decoder.json { source := { events := [] }, count := 1 }).nextRecord
      = some (.ok none, .json { source := { events := [] }, count := 1 }) := by
    simp only [Decoder.nextRecord, last, Option.map_some]
  exact ⟨_, .item event (.ended ended)⟩

end

end EngineClient.Session
