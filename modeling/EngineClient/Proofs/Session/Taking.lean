import EngineClient.Proofs.Json.Items
import EngineClient.Proofs.Session.Verdict
import EngineClient.Session.Stream

/-! An export of which all items are taken: its events, and what comes behind them. -/

namespace EngineClient.Session

/-- The items that some events are, and the failure behind them if there is one. -/
def handedOut (records : List Record) : Except Error Unit → List (Except Error Record)
  | .ok () => records.map .ok
  | .error error => records.map .ok ++ [.error error]

/-- One more event is one more item. -/
@[simp] theorem handedOut_cons (record : Record) (records : List Record) (last : Except Error Unit) :
    handedOut (record :: records) last = .ok record :: handedOut records last := by
  cases last <;> rfl

variable [Platform]

section

variable {session after : Session} {records : List Record} {last : Except Error Unit}

/-- Taking all items goes by the next answer. -/
theorem takeItems_eq (session : Session) :
    session.takeItems none = match session.nextRecord with
      | none => none
      | some (.error error, next) => some ⟨[.error error], next⟩
      | some (.ok none, next) => some ⟨[], next⟩
      | some (.ok (some record), next) => (next.takeItems none).map (Taken.cons record) := by
  rw [takeItems, if_neg nofun, nextRecord]
  split <;> simp_all [Attempt.answer?]

/-- All items of an export that ends are taken. -/
theorem takeItems_of_exhausts (exhausts : Exhausts nextRecord session records last after) :
    session.takeItems none = some ⟨handedOut records last, after⟩ := by
  -- The induction is on the events, behind which comes the end or a failure.
  induction exhausts with
  | ended answered => rw [takeItems_eq, answered]; rfl
  | failed answered => rw [takeItems_eq, answered]; rfl
  | item answered behind ih =>
    rw [takeItems_eq, answered, handedOut_cons]
    simp only [ih]
    rfl

/-- Items that were taken are those of an export that ends. -/
theorem exhausts_of_takeItems {taken : Taken} (ran : session.takeItems none = some taken) :
    ∃ records last, Exhausts nextRecord session records last taken.session ∧
      taken.items = handedOut records last := by
  generalize all : none = limit at ran
  -- The induction is on the items taken, and without a limit all are.
  fun_induction takeItems limit session generalizing taken with
  | case1 session => cases all
  | case2 => cases ran
  | case3 limit session going error after brought =>
    cases ran
    exact ⟨[], _, .failed (Attempt.answer?_eq_some.mpr (all ▸ brought)), rfl⟩
  | case4 limit session going after brought =>
    cases ran
    exact ⟨[], _, .ended (Attempt.answer?_eq_some.mpr (all ▸ brought)), rfl⟩
  | case5 limit session going record after brought ih =>
    subst all
    obtain ⟨others, behind, rfl⟩ := Option.map_eq_some_iff.mp ran
    obtain ⟨records, last, exhausts, items⟩ := ih rfl behind
    refine ⟨record :: records, last, .item (Attempt.answer?_eq_some.mpr brought) exhausts, ?_⟩
    rw [handedOut_cons, ← items, Taken.cons]

/-- Nothing comes of taking all items exactly if the export never ends. -/
theorem takeItems_eq_none_iff :
    session.takeItems none = none ↔
      ∀ records last after, ¬Exhausts nextRecord session records last after := by
  constructor
  · intro endless records last after exhausts
    rw [takeItems_of_exhausts exhausts] at endless
    cases endless
  · intro endless
    -- Items that are taken would show a way to the end.
    cases ran : session.takeItems none with
    | none => rfl
    | some taken =>
      obtain ⟨records, last, exhausts, _⟩ := exhausts_of_takeItems ran
      exact (endless _ _ _ exhausts).elim

/-- An export that ends has read its events from its output, up to the end or to a failure. -/
theorem reader_of_exhausts (exhausts : Exhausts nextRecord session records last after)
    {decoder : Decoder} (streaming : session.phase = .streaming decoder) :
    ∃ last rest, Exhausts Decoder.nextRecord decoder records last rest := by
  -- The induction is on the events, of which each is one that the reader has brought.
  induction exhausts generalizing decoder with
  | @ended session next answered | @failed session next _ answered =>
    rw [nextRecord, attemptRecord, attempt_streaming streaming] at answered
    cases ran : decoder.nextRecord with
    | none => simp [readFrom, ran, Attempt.answer?] at answered
    | some pair =>
      obtain ⟨error | _ | record, rest⟩ := pair
      · exact ⟨_, rest, .failed ran⟩
      · exact ⟨_, rest, .ended ran⟩
      · simp [readFrom_unlimited ran, Attempt.answer?] at answered
  | @item session next _ record _ _ answered behind ih =>
    rw [nextRecord, attemptRecord, attempt_streaming streaming] at answered
    cases ran : decoder.nextRecord with
    | none => simp [readFrom, ran, Attempt.answer?] at answered
    | some pair =>
      obtain ⟨answer, rest⟩ := pair
      rw [readFrom_unlimited ran] at answered
      -- Of the answers of the reader only an event is an event of the export.
      rcases answer with error | _ | brought
      · cases answered
      · -- What the engine's end is answered with is no event.
        cases finished : (session.called .wait).finish.1 <;>
          simp [finished, Except.map, Attempt.answer?] at answered
      · cases answered
        obtain ⟨last, after, reads⟩ := ih rfl
        exact ⟨last, after, .item ran reads⟩

end

section

variable {fresh : Session} {records : List Record} {last : Except Error Unit} (idle : fresh.phase = .idle)
include idle

/-- A fresh export that ends cannot be started, or has read its events from the engine's output. -/
theorem opened_of_exhausts {after : Session} (exhausts : Exhausts nextRecord fresh records last after)
    (spawned : fresh.engine.spawnError = none) :
    ∃ last rest, Exhausts Decoder.nextRecord fresh.opened records last rest := by
  let started : Session :=
    { fresh.called (.spawn fresh.invocation.display) with phase := .streaming fresh.opened }
  have streaming : started.phase = .streaming fresh.opened := rfl
  -- Once started, the export answers what the idle one does.
  have same : started.nextRecord = fresh.nextRecord := by
    rw [nextRecord, nextRecord, attemptRecord, attemptRecord, attempt_started idle spawned rfl,
      attempt_streaming streaming]
    rfl
  exact reader_of_exhausts (exhausts.of_same same) streaming

/-- An export of lines that ends has a verdict, also where what it has not read would hang. -/
theorem verdict_of_exhausts {after : Session} (lines : fresh.request.encoding = .json)
    (exhausts : Exhausts nextRecord fresh records last after) : Verdict fresh records last after := by
  -- It has one way to its end, which is one of those that have a verdict.
  have ends : ∃ records last after, Exhausts nextRecord fresh records last after ∧
      Verdict fresh records last after := by
    cases spawned : fresh.engine.spawnError with
    | some error => exact ⟨[], _, verdict_unstarted idle spawned⟩
    | none =>
      obtain ⟨last, rest, read⟩ := opened_of_exhausts idle exhausts spawned
      refine ⟨records, ?_⟩
      cases last with
      | ok nothing => exact verdict_settled idle spawned read
      -- A reader of lines fails with errors that blame the output.
      | error found =>
        have reader : fresh.opened = .json { source := { events := fresh.engine.output } } := by
          simp only [opened, Decoder.ofSource, lines]
        obtain ⟨_, inner⟩ := Decoder.exhausts_json_iff.mp ⟨rest, reader ▸ read⟩
        exact verdict_broken idle spawned read (Json.Lines.ofOutput_of_exhausts inner)
  obtain ⟨_, _, _, other, verdict⟩ := ends
  obtain ⟨rfl, rfl, rfl⟩ := exhausts.unique other
  exact verdict

/-- Each failure that an export can end with is the one that it answers behind its events. -/
theorem exhausts_of_fails {error : Error} (fails : Fails fresh records error) :
    ∃ after, Exhausts nextRecord fresh records (.error error) after := by
  -- Each failure is what the export ends with, once its output is read as far as that.
  cases fails with
  | unstarted spawned =>
    obtain ⟨after, exhausts, _⟩ := verdict_unstarted idle spawned
    exact ⟨after, exhausts⟩
  | @broken _ found _ spawned read kind bare =>
    obtain ⟨after, exhausts, _⟩ := exhausts_of_opened idle spawned read
    have explained : fresh.verdict (.error found)
        = .error { found with stderr := heard fresh.engine.terminated } :=
      congrArg Except.error (explain_bare bare fresh.engine.terminated)
    exact ⟨after, explained ▸ exhausts⟩
  | unanswered spawned read exit =>
    obtain ⟨after, exhausts, _⟩ := exhausts_of_opened idle spawned read
    have settled : fresh.verdict (.ok ()) = .error error := by rw [verdict, settle, exit]
    exact ⟨after, settled ▸ exhausts⟩
  | refused spawned read exit code checked kind =>
    obtain ⟨after, exhausts, _⟩ := exhausts_of_opened idle spawned read
    have settled : fresh.verdict (.ok ()) = .error error := by simp only [verdict, settle, exit, checked]
    exact ⟨after, settled ▸ exhausts⟩
  | @early _ _ _ report spawned read exit code live unlimited ended kind =>
    obtain ⟨after, exhausts, _⟩ := exhausts_of_opened idle spawned read
    have checked := (ExitReport.check_eq_ok_iff report fresh.invocation).mpr code
    -- It is not for the engine to end such an export.
    have endless : ¬mayEnd fresh.request = true := by
      rw [mayEnd_iff, not_or, not_not]
      exact ⟨live, unlimited⟩
    have settled : fresh.verdict (.ok ()) = .error error := by
      simp only [verdict, settle, exit, checked, if_neg endless, ended]
    exact ⟨after, settled ▸ exhausts⟩

end

end EngineClient.Session
