import EngineClient.Engine.Run
import EngineClient.Proofs.Answers
import EngineClient.Proofs.Engine.Exit
import EngineClient.Proofs.Engine.Source

/-! A short command is settled by what happens first: its engine ends, something fails, or its time is
over. -/

namespace EngineClient

/-- How many milliseconds pass in an event. -/
def OutputEvent.span : OutputEvent → Nat
  | .pause milliseconds => milliseconds
  | _ => 0

/-- How many milliseconds pass in some events. -/
def OutputEvent.elapsed : List OutputEvent → Nat
  | [] => 0
  | event :: rest => event.span + elapsed rest

/-- Events are quiet, or some of them are before the first that is not. -/
theorem OutputEvent.quiet_or_split (events : List OutputEvent) :
    (∀ event ∈ events, event.IsQuiet) ∨
      ∃ before event behind, events = before ++ event :: behind ∧
        (∀ event ∈ before, event.IsQuiet) ∧ ¬event.IsQuiet := by
  -- The first event that is not quiet is the head, or the first one of the tail.
  induction events with
  | nil => exact .inl (List.forall_mem_nil _)
  | cons event rest ih =>
    by_cases first : event.IsQuiet
    · rcases ih with quiet | ⟨before, loud, behind, rfl, quiet, other⟩
      · exact .inl (List.forall_mem_cons.mpr ⟨first, quiet⟩)
      · exact .inr ⟨event :: before, loud, behind, rfl, List.forall_mem_cons.mpr ⟨first, quiet⟩,
          other⟩
    · exact .inr ⟨[], event, rest, rfl, List.forall_mem_nil _, first⟩

namespace Source

/-- Reading to the end gathers the bytes of quiet events, and waits as long as they take. -/
theorem drainFrom_quiet {events : List OutputEvent} (quiet : ∀ event ∈ events, event.IsQuiet)
    (read : List Bytes) (waited : Nat) (rest : List OutputEvent) :
    ∃ held : List Bytes,
      held.reverse.flatten = read.reverse.flatten ++ events.flatMap OutputEvent.bytes ∧
      drainFrom read waited (events ++ rest)
        = drainFrom held (waited + OutputEvent.elapsed events) rest := by
  -- The events are passed one by one, and what was gathered of them is kept in reverse.
  induction events generalizing read waited with
  | nil => exact ⟨read, by simp, rfl⟩
  | cons event events ih =>
    have others : ∀ event ∈ events, event.IsQuiet := fun other member =>
      quiet other (List.mem_cons_of_mem _ member)
    cases event with
    | data bytes =>
      -- The chunk is put in front of those that were gathered.
      obtain ⟨held, gathered, ran⟩ := ih others (bytes :: read) waited
      refine ⟨held, ?_, ?_⟩
      · simp [gathered, OutputEvent.bytes]
      · simpa [drainFrom, OutputEvent.elapsed, OutputEvent.span] using ran
    | pause milliseconds =>
      -- A pause brings nothing, and only the time goes on.
      obtain ⟨held, gathered, ran⟩ := ih others read (waited + milliseconds)
      refine ⟨held, ?_, ?_⟩
      · simp [gathered, OutputEvent.bytes]
      · simpa [drainFrom, OutputEvent.elapsed, OutputEvent.span, Nat.add_assoc] using ran
    | failure cause => exact (quiet _ List.mem_cons_self).elim
    | hang => exact (quiet _ List.mem_cons_self).elim

variable {events before behind : List OutputEvent}

/-- A quiet output is read as a whole. -/
theorem drain_quiet (quiet : ∀ event ∈ events, event.IsQuiet) :
    ({ events } : Source).drain
      = some (.ok (events.flatMap OutputEvent.bytes),
        ⟨[], [], OutputEvent.elapsed events⟩) := by
  -- Behind the quiet events there is nothing but the end.
  obtain ⟨held, gathered, ran⟩ := drainFrom_quiet quiet [[]] 0 []
  simp only [List.append_nil, Nat.zero_add] at ran
  simp only [drain, ran, drainFrom, gathered]
  rfl

/-- An output is read up to the first failure. -/
theorem drain_failure {cause : String} (quiet : ∀ event ∈ before, event.IsQuiet) :
    ({ events := before ++ .failure cause :: behind } : Source).drain
      = some (.error cause, ⟨[], behind, OutputEvent.elapsed before⟩) := by
  -- The failure is met behind the quiet events, and ends the reading.
  obtain ⟨held, gathered, ran⟩ := drainFrom_quiet quiet [[]] 0 (.failure cause :: behind)
  simp only [drain, ran, drainFrom, Nat.zero_add]

/-- An output that hangs before anything fails is never read. -/
theorem drain_hang (quiet : ∀ event ∈ before, event.IsQuiet) :
    ({ events := before ++ .hang :: behind } : Source).drain = none := by
  obtain ⟨held, gathered, ran⟩ := drainFrom_quiet quiet [[]] 0 (.hang :: behind)
  simp only [drain, ran, drainFrom]

end Source

namespace Engine

/-- What an engine comes to that was started and is left alone, and after how many milliseconds. -/
inductive Concludes (engine : Engine) : Nat → Except Error (Bytes × ExitReport) → Prop where
  /-- A part of its output cannot be read. -/
  | unreadable {before behind : List OutputEvent} {cause : String}
    (output : engine.output = before ++ .failure cause :: behind)
    (quiet : ∀ event ∈ before, event.IsQuiet) :
    Concludes engine (OutputEvent.elapsed before) (.error (.ofRead cause))
  /-- Its output ends, and the wait for its own end fails. -/
  | unanswered {error : Error} (quiet : ∀ event ∈ engine.output, event.IsQuiet)
    (exit : engine.exit = .error error) :
    Concludes engine (OutputEvent.elapsed engine.output + engine.exitDelay) (.error error)
  /-- Its output ends, and so does the engine. -/
  | ended {report : ExitReport} (quiet : ∀ event ∈ engine.output, event.IsQuiet)
    (exit : engine.exit = .ok report) :
    Concludes engine (OutputEvent.elapsed engine.output + engine.exitDelay)
      (.ok (engine.output.flatMap OutputEvent.bytes, report))

/-- The calls on an engine that was told to end: it was started before, and perhaps waited for. -/
def Terminates (invocation : Invocation) (grace : Nat) (calls : List EngineCall) : Prop :=
  calls = [.spawn invocation.display, .terminate grace] ∨
    calls = [.spawn invocation.display, .wait, .terminate grace]

/-- A command is told to end and answered with a failure. -/
def RunResult.GivesUp (result : RunResult) (invocation : Invocation) (grace : Nat)
    (error : Error) : Prop :=
  result.answer = .error error ∧ Terminates invocation grace result.calls

section

variable {engine : Engine} {invocation : Invocation} {timeout grace moment : Nat}

/-- An engine that ends in time is not told to, and its report decides on the answer. -/
theorem run_ended (started : engine.spawnError = none) {output : Bytes} {report : ExitReport}
    (concludes : engine.Concludes moment (.ok (output, report))) (early : moment < timeout) :
    engine.run invocation timeout grace
      = ⟨(report.check invocation).map fun _ => output, [.spawn invocation.display, .wait]⟩ := by
  cases concludes with
  | ended quiet exit =>
    -- The deadline is looked at twice: when the output is read, and when the engine has ended.
    have inTime : ¬timeout < OutputEvent.elapsed engine.output := by omega
    have ended : ¬timeout < OutputEvent.elapsed engine.output + engine.exitDelay := by omega
    simp only [run, started, Source.drain_quiet quiet, if_neg inTime, if_neg ended, exit]

/-- An engine that fails in time is told to end, and the failure is the answer. -/
theorem run_failed (started : engine.spawnError = none) {error : Error}
    (concludes : engine.Concludes moment (.error error)) (early : moment < timeout) :
    (engine.run invocation timeout grace).GivesUp invocation grace error := by
  -- It fails while its output is read, or while its end is waited for.
  cases concludes with
  | @unreadable before behind cause output quiet =>
    have inTime : ¬timeout < OutputEvent.elapsed before := by omega
    simp only [run, started, output, Source.drain_failure quiet, if_neg inTime]
    exact ⟨rfl, .inl rfl⟩
  | unanswered quiet exit =>
    -- The output came in time, so it is the wait that fails.
    have inTime : ¬timeout < OutputEvent.elapsed engine.output := by omega
    have ended : ¬timeout < OutputEvent.elapsed engine.output + engine.exitDelay := by omega
    simp only [run, started, Source.drain_quiet quiet, if_neg inTime, if_neg ended, exit]
    exact ⟨rfl, .inr rfl⟩

/-- An engine that comes to nothing in time is told to end, and that is the answer. -/
theorem run_late (started : engine.spawnError = none)
    (late : ∀ moment result, engine.Concludes moment result → timeout < moment) :
    (engine.run invocation timeout grace).GivesUp invocation grace
      (timeoutError invocation timeout) := by
  rcases OutputEvent.quiet_or_split engine.output with
    quiet | ⟨before, event, behind, output, quiet, loud⟩
  · -- The time is over while the output is read, or while the end of the engine is waited for.
    have ended : timeout < OutputEvent.elapsed engine.output + engine.exitDelay := by
      cases exit : engine.exit with
      | error error => exact late _ _ (.unanswered quiet exit)
      | ok report => exact late _ _ (.ended quiet exit)
    simp only [run, started, Source.drain_quiet quiet]
    -- The deadline strikes before the output is read, or in the wait behind it.
    by_cases reading : timeout < OutputEvent.elapsed engine.output
    · rw [if_pos reading]
      exact ⟨rfl, .inl rfl⟩
    · rw [if_neg reading, if_pos ended]
      exact ⟨rfl, .inr rfl⟩
  · cases event with
    | data bytes => exact absurd trivial loud
    | pause milliseconds => exact absurd trivial loud
    | failure cause =>
      -- The failure would have come too late as well.
      have reading := late _ _ (.unreadable output quiet)
      simp only [run, started, output, Source.drain_failure quiet, if_pos reading]
      exact ⟨rfl, .inl rfl⟩
    | hang =>
      -- An output that hangs is read until the time is over, whenever that is.
      simp only [run, started, output, Source.drain_hang quiet]
      exact ⟨rfl, .inl rfl⟩

/-- An engine that does not start is not told to end, and why it did not is the answer. -/
theorem run_unstarted {error : Error} (fails : engine.spawnError = some error) :
    engine.run invocation timeout grace = ⟨.error error, [.spawn invocation.display]⟩ := by
  simp only [run, fails]

/-- An engine that was started and is left alone ends with code zero no later than a time, and has
written an output until then. -/
def BringsWithin (engine : Engine) (time : Nat) (output : Bytes) : Prop :=
  engine.spawnError = none ∧ ∃ moment report,
    engine.Concludes moment (.ok (output, report)) ∧ moment ≤ time ∧ report.code = some 0

/-- A command is answered with an output exactly if its engine brings that output in time. -/
theorem run_eq_ok_iff {output : Bytes} :
    (engine.run invocation timeout grace).answer = .ok output ↔
      engine.BringsWithin timeout output := by
  cases spawned : engine.spawnError with
  | some error =>
    -- Nothing is brought by an engine that does not start.
    rw [run_unstarted spawned, BringsWithin, spawned]
    simp
  | none =>
    constructor
    · intro answered
      -- An answer that is no failure has an output that ends, and an engine that does.
      rcases OutputEvent.quiet_or_split engine.output with
        quiet | ⟨before, event, behind, written, quiet, loud⟩
      · -- Both looks at the deadline were passed, and the report was no failure.
        simp only [run, spawned, Source.drain_quiet quiet] at answered
        split at answered
        · cases answered
        · split at answered
          · cases answered
          · rename_i inTime
            cases exit : engine.exit with
            | error error => simp [exit] at answered
            | ok report =>
              simp only [exit] at answered
              obtain ⟨_, checked, rfl⟩ := map_eq_ok_iff.mp answered
              exact ⟨spawned, _, report, .ended quiet exit, Nat.le_of_not_lt inTime,
                (report.check_eq_ok_iff invocation).mp checked⟩
      · -- An output that fails or hangs is not answered with a value.
        cases event with
        | data bytes => exact absurd trivial loud
        | pause milliseconds => exact absurd trivial loud
        | failure cause =>
          simp only [run, spawned, written, Source.drain_failure quiet] at answered
          split at answered <;> cases answered
        | hang =>
          simp only [run, spawned, written, Source.drain_hang quiet] at answered
          cases answered
    · rintro ⟨_, moment, report, concludes, inTime, zero⟩
      cases concludes with
      | ended quiet exit =>
        -- What ends in time was read in time.
        have read : ¬timeout < OutputEvent.elapsed engine.output := by omega
        have ended : ¬timeout < OutputEvent.elapsed engine.output + engine.exitDelay := by omega
        have checked := (report.check_eq_ok_iff invocation).mpr zero
        simp only [run, spawned, Source.drain_quiet quiet, if_neg read, if_neg ended, exit, checked]
        rfl

/-- An engine that was started and is left alone ends with code zero no later than a time. -/
def SucceedsWithin (engine : Engine) (time : Nat) : Prop :=
  engine.spawnError = none ∧ ∃ moment output report,
    engine.Concludes moment (.ok (output, report)) ∧ moment ≤ time ∧ report.code = some 0

/-- A command succeeds exactly if its engine does so in time. -/
theorem run_isOk_iff :
    (engine.run invocation timeout grace).answer.isOk = true ↔ engine.SucceedsWithin timeout := by
  -- It succeeds with some output, which the engine has brought.
  have some : (engine.run invocation timeout grace).answer.isOk = true ↔
      ∃ output, (engine.run invocation timeout grace).answer = .ok output := by
    cases (engine.run invocation timeout grace).answer <;> simp [Except.isOk, Except.toBool]
  simp only [some, run_eq_ok_iff]
  constructor
  · rintro ⟨output, started, moment, report, concludes⟩
    exact ⟨started, moment, output, report, concludes⟩
  · rintro ⟨started, moment, output, report, concludes⟩
    exact ⟨output, started, moment, report, concludes⟩

end

/-- A command is settled by what happens first. An engine that does not start is called no more; one
that ends in time is not told to, and the code of its report decides between its whole output and the
failure that the report is; one that fails in time, or comes to nothing in time, is told to end
once, and that is the answer. How it takes being told makes no difference. -/
theorem run_first (engine : Engine) (invocation : Invocation) (timeout grace : Nat) :
    let result := engine.run invocation timeout grace
    (∀ error, engine.spawnError = some error →
      result.answer = .error error ∧ result.calls = [.spawn invocation.display]) ∧
    (engine.spawnError = none →
      (∀ moment output report, engine.Concludes moment (.ok (output, report)) → moment < timeout →
        result.calls = [.spawn invocation.display, .wait] ∧
        (report.code = some 0 → result.answer = .ok output) ∧
        (report.code ≠ some 0 →
          ∃ error, report.check invocation = .error error ∧ result.answer = .error error)) ∧
      (∀ moment error, engine.Concludes moment (.error error) → moment < timeout →
        result.GivesUp invocation grace error) ∧
      ((∀ moment conclusion, engine.Concludes moment conclusion → timeout < moment) →
        result.GivesUp invocation grace
          { kind := .timeout, input := some invocation.display
            message := some ("engine did not finish within " ++ toString timeout ++ " ms") })) ∧
    ∀ terminated, { engine with terminated }.run invocation timeout grace = result := by
  intro result
  refine ⟨fun error fails => ?_, fun started => ⟨fun moment output report ended early => ?_,
    fun moment error failed early => run_failed started failed early, run_late started⟩,
    fun terminated => rfl⟩
  · have ran : result = _ := run_unstarted fails
    rw [ran]
    exact ⟨rfl, rfl⟩
  · -- The output is the answer, unless the report is a failure.
    have ran : result = _ := run_ended started ended early
    have zero := report.check_eq_ok_iff invocation
    rw [ran]
    -- The report is no failure exactly if its code is zero.
    cases checked : report.check invocation with
    | ok nothing =>
      exact ⟨rfl, fun _ => rfl, fun other => absurd (zero.mp checked) other⟩
    | error error =>
      refine ⟨rfl, fun code => ?_, fun _ => ⟨error, rfl, rfl⟩⟩
      cases checked.symm.trans (zero.mpr code)

end Engine

end EngineClient
