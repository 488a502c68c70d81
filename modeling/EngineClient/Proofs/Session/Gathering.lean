import EngineClient.Proofs.Arrow.Streams
import EngineClient.Proofs.Session.Lifecycle
import EngineClient.Proofs.Session.Counting
import EngineClient.Proofs.Session.Rows

/-! Gathering answers the rows of the batches that come in time, as many as are wanted. -/

namespace EngineClient.Session

open Arrow (NamedBatch)
open Tables (rowsIn firstRows)

section

variable {session : Session} {limit : Option Nat}

/-- A wait that is over in time has begun in time. -/
theorem inTime_of_add {time delay : Nat} (punctual : inTime limit (time + delay) = true) :
    inTime limit time = true := by
  cases limit with
  | none => rfl
  -- A time with a delay is no shorter without it.
  | some most =>
    have reached : time + delay ≤ most := of_decide_eq_true punctual
    exact decide_eq_true (Nat.le_trans (Nat.le_add_right time delay) reached)

/-- Nothing is too late that is there at once. -/
theorem inTime_zero (limit : Option Nat) : inTime limit 0 = true := by
  cases limit with
  | none => rfl
  | some most => exact decide_eq_true (Nat.zero_le most)

/-- When reading from an output is answered, in milliseconds since the start of the engine; of no
meaning where it never is. -/
def readTime {α : Type} (read : Decoder → Decoder.Answer α) (decoder : Decoder)
    (session : Session) : Nat :=
  match read decoder with
  -- Behind the output, the engine's end is waited for.
  | some (.ok none, rest) => rest.source.waited + session.engine.exitDelay
  | some (_, rest) => rest.source.waited
  | none => 0

/-- Within a limit, reading answers what it does without one, if that is in time. -/
theorem readFrom_answered_iff {α : Type} {read : Decoder → Decoder.Answer α} {count : α → UInt64}
    {decoder : Decoder} {answer : Except Error (Option α)} {after : Session} :
    session.readFrom read count limit decoder = .answered answer after ↔
      session.readFrom read count none decoder = .answered answer after ∧
        inTime limit (session.readTime read decoder) = true := by
  have unlimited (time : Nat) : inTime none time = true := rfl
  unfold readFrom readTime
  -- The cases are those of what is read: nothing for ever, a failure, the end or an item.
  cases brought : read decoder with
  | none => simp
  | some answered =>
    obtain ⟨item, rest⟩ := answered
    rcases item with error | (_ | item)
    · cases punctual : inTime limit rest.source.waited <;> simp [punctual, unlimited]
    · have engine : (session.called .wait).engine = session.engine := rfl
      cases punctual : inTime limit (rest.source.waited + session.engine.exitDelay) with
      | true =>
        -- Both the output and the engine have ended in time.
        have ended := inTime_of_add punctual
        simp [leave, engine, punctual, ended, unlimited]
      | false =>
        cases ended : inTime limit rest.source.waited <;> simp [leave, engine, punctual, ended]
    · cases punctual : inTime limit rest.source.waited <;> simp [punctual, unlimited]

end

/-- Calling a session off at a limit that is not over cancels it, and answers the tables if its engine
can be told to end. -/
theorem stopWith_live {fresh session : Session} {report : ExitReport}
    (arises : Arises fresh session) (live : session.phase.isTerminal = false)
    (terminates : fresh.engine.terminated = .ok report) (tables : Tables) :
    (session.stopWith tables).1 = .ok tables ∧ (session.stopWith tables).2.phase = .cancelled := by
  rw [← arises.engine] at terminates
  unfold stopWith cancel
  rw [if_neg (by simp [live])]
  -- Only an engine whose output is being read is told to end.
  cases session.phase with
  | streaming decoder =>
    rw [terminates]
    exact ⟨rfl, rfl⟩
  | _ => exact ⟨rfl, rfl⟩

/-- An export of which no rows were read one by one. -/
def HoldsNone (session : Session) : Prop :=
  ∀ decoder, session.phase = .streaming decoder →
    ∃ reader : Arrow.Batches, decoder = .arrow reader ∧ reader.held = none

/-- What a fresh Arrow export has become whose output is not read to its end. -/
structure GoesOn (fresh session : Session) : Prop where
  arrow : fresh.request.encoding = .arrow
  arises : Arises fresh session
  live : session.phase.isTerminal = false
  stays : session.phase ≠ .leaving
  holds : session.HoldsNone

/-- A fresh Arrow export goes on. -/
theorem GoesOn.of_fresh {engine : Engine} {invocation : Invocation} {request : ExportRequest}
    {grace : Nat} (arrow : request.encoding = .arrow) :
    GoesOn { engine, invocation, request, grace } { engine, invocation, request, grace } :=
  ⟨arrow, ⟨rfl, rfl, rfl, rfl, by simp [histories]⟩, rfl, by simp, fun _ absurd => nomatch absurd⟩

/-- An export that goes on is an Arrow export. -/
theorem GoesOn.encoding {fresh session : Session} (goesOn : GoesOn fresh session) :
    session.request.encoding = .arrow := by
  rw [goesOn.arises.request]
  exact goesOn.arrow

section

variable [Platform]

section

variable {session : Session} {limit : Option Nat}

/-- When a call for the next batch is answered, in milliseconds since the start of the engine; of no
meaning where it never is. -/
def batchTime (session : Session) : Nat :=
  match session.ready with
  | (.ok (some decoder), session) => session.readTime Decoder.nextBatch decoder
  -- Where nothing is read, nothing is waited for.
  | _ => 0

/-- Within a limit, a call for the next batch answers what it does without one, if that is in time. -/
theorem attemptBatch_answered_iff {answer : Except Error (Option NamedBatch)} {after : Session}
    (arrow : session.request.encoding = .arrow) :
    session.attemptBatch limit = .answered answer after ↔
      session.nextBatch = some (answer, after) ∧ inTime limit session.batchTime = true := by
  rw [nextBatch, Attempt.answer?_eq_some, attemptBatch_eq arrow, attemptBatch_eq arrow]
  unfold attempt batchTime
  generalize session.ready = ready
  obtain ⟨found, middle⟩ := ready
  -- Only where there is an output to read from can anything take time.
  rcases found with error | (_ | decoder)
  · simp [inTime_zero]
  · simp [inTime_zero]
  · exact readFrom_answered_iff

/-- A call for the next batch that is not answered in time comes too late. -/
theorem attemptBatch_late (arrow : session.request.encoding = .arrow)
    (late : ∀ answer after, session.nextBatch = some (answer, after) →
      inTime limit session.batchTime = false) :
    ∃ after, session.attemptBatch limit = .late after := by
  -- An attempt that is answered would be answered in time.
  cases ran : session.attemptBatch limit with
  | late after => exact ⟨after, rfl⟩
  | answered answer after =>
    obtain ⟨answered, punctual⟩ := (attemptBatch_answered_iff arrow).mp ran
    cases punctual.symm.trans (late answer after answered)

/-- Where an attempt comes too late, the export is not over. -/
theorem live_of_late {after : Session} (arrow : session.request.encoding = .arrow)
    (late : session.attemptBatch limit = .late after) : after.phase.isTerminal = false := by
  rw [attemptBatch_eq arrow] at late
  have attempts : Attempts Decoder.nextBatch NamedBatch.numRows limit session
      (.late after) := late ▸ attempt_attempts session
  -- The output is still being read, or the wait for the engine's end was given up.
  cases attempts with
  | started idle spawned opened reads => cases reads with
    | nothing => rfl
    | left ended punctual late => rfl
  | reading streaming reads => cases reads with
    | nothing => rw [streaming]; rfl
    | left ended punctual late => rfl

end

/-- The next batch and the export that it leaves, if there is one that comes in time. -/
def timelyBatch (limit : Option Nat) (session : Session) : Option (NamedBatch × Session) :=
  match session.nextBatch with
  | some (.ok (some batch), after) =>
    if inTime limit session.batchTime then some (batch, after) else none
  | _ => none

/-- A batch comes in time exactly if it is answered, and in time. -/
theorem timelyBatch_eq_some {limit : Option Nat} {session after : Session} {batch : NamedBatch} :
    session.timelyBatch limit = some (batch, after) ↔
      session.nextBatch = some (.ok (some batch), after) ∧
        inTime limit session.batchTime = true := by
  unfold timelyBatch
  -- A batch is timely if it is brought, and brought in time.
  constructor
  · intro timely
    split at timely
    · split at timely
      · rename_i punctual
        cases timely
        rename_i answered
        exact ⟨answered, punctual⟩
      · cases timely
    · cases timely
  · rintro ⟨answered, punctual⟩
    simp only [answered, punctual, if_true]

/-- What comes behind the batches that come in time. -/
inductive Ending where
  /-- The export completes. -/
  | completed
  /-- The export fails. -/
  | failed (error : Error)
  /-- The time is up. -/
  | deadline
  /-- Nothing comes any more, and there is no limit on time. -/
  | never

/-- Whether it is an ending that comes next. -/
inductive Ends (limit : Option Nat) (session : Session) : Ending → Prop where
  /-- The end is answered in time. -/
  | completed {after : Session} (answered : session.nextBatch = some (.ok none, after))
    (punctual : inTime limit session.batchTime = true) : Ends limit session .completed
  /-- A failure is answered in time. -/
  | failed {error : Error} {after : Session}
    (answered : session.nextBatch = some (.error error, after))
    (punctual : inTime limit session.batchTime = true) : Ends limit session (.failed error)
  /-- Nothing is answered in time. -/
  | deadline (limited : limit ≠ none)
    (late : ∀ answer after, session.nextBatch = some (answer, after) →
      inTime limit session.batchTime = false) : Ends limit session .deadline
  /-- Nothing is ever answered. -/
  | never (unlimited : limit = none) (silent : session.nextBatch = none) :
    Ends limit session .never

/-- Some batches come in time, and an ending behind them. -/
theorem exists_ends (limit : Option Nat) (session : Session) :
    ∃ batches rest ending, Repeats (timelyBatch limit) session batches rest ∧
      Ends limit rest ending := by
  -- The induction is on what is left to be read, of which every batch takes a part.
  induction sized : session.remaining using (Prod.lex Nat.lt_wfRel Nat.lt_wfRel).wf.induction
    generalizing session with
  | h size ih =>
    have late (overdue : inTime limit session.batchTime = false) : Ends limit session .deadline := by
      refine .deadline (fun unlimited => ?_) fun _ _ _ => overdue
      rw [unlimited] at overdue
      cases overdue
    cases ran : session.nextBatch with
    | none =>
      -- Nothing is answered, so that the limit ends the wait, if there is one.
      cases limited : limit with
      | none => exact ⟨[], session, .never, .done session, .never rfl ran⟩
      | some most =>
        refine ⟨[], session, .deadline, .done session, .deadline (Option.some_ne_none most) ?_⟩
        intro answer after answered
        cases ran.symm.trans answered
    | some brought =>
      obtain ⟨answer, after⟩ := brought
      cases punctual : inTime limit session.batchTime with
      | false => exact ⟨[], session, .deadline, .done session, late punctual⟩
      | true =>
        rcases answer with error | (_ | batch)
        · exact ⟨[], session, _, .done session, .failed ran punctual⟩
        · exact ⟨[], session, _, .done session, .completed ran punctual⟩
        · -- Behind a batch there are others, or the ending.
          have timely := timelyBatch_eq_some.mpr ⟨ran, punctual⟩
          obtain ⟨batches, rest, ending, behind, ends⟩ :=
            ih _ (sized ▸ nextBatch_consumes _ _ _ ran) after rfl
          exact ⟨batch :: batches, rest, ending, .again timely behind, ends⟩

/-- A batch that is read where no rows are held was read out of a message, and none are held behind it. -/
theorem Reads.batch_of_held {reader : Arrow.Batches} (held : reader.held = none)
    {session after : Session} {batch : NamedBatch}
    (reads : Reads Decoder.nextBatch NamedBatch.numRows limit (.arrow reader) session
      (.answered (.ok (some batch)) after)) :
    batch.table.length < Nat.pow 2 64 ∧ after.HoldsNone := by
  cases reads with
  | item brought =>
    obtain ⟨⟨answer, rest⟩, fetched, same⟩ := Option.map_eq_some_iff.mp brought
    cases same
    rw [Arrow.Batches.nextBatch_eq held] at fetched
    -- The batch was read just now, and nothing of it is held back.
    obtain ⟨name, read, rfl, isRead⟩ := Arrow.Batches.exists_tag_of_fetch fetched
    refine ⟨isRead.length_lt, fun decoder streaming => ?_⟩
    cases streaming
    exact ⟨rest, rfl, (Arrow.Batches.fetch_held reader fetched).trans held⟩

namespace GoesOn

variable {fresh session after : Session} {limit : Option Nat}

/-- A batch has no more rows than a number of sixty-four bits can tell, and behind it no rows are
held. -/
theorem batch_short {batch : NamedBatch} (goesOn : GoesOn fresh session)
    (ran : session.attemptBatch limit = .answered (.ok (some batch)) after) :
    batch.table.length < Nat.pow 2 64 ∧ after.HoldsNone := by
  rw [attemptBatch_eq goesOn.encoding] at ran
  have attempts : Attempts Decoder.nextBatch NamedBatch.numRows limit session
      (.answered (.ok (some batch)) after) := ran ▸ attempt_attempts session
  -- The reader was opened just now, or it holds no rows.
  cases attempts with
  | started idle spawned opened reads =>
    rw [opened, goesOn.encoding] at reads
    exact reads.batch_of_held rfl
  | reading streaming reads =>
    obtain ⟨reader, rfl, held⟩ := goesOn.holds _ streaming
    exact reads.batch_of_held held

/-- Behind a batch that comes in time the export goes on. -/
theorem batch {batch : NamedBatch} (goesOn : GoesOn fresh session)
    (timely : session.timelyBatch limit = some (batch, after)) :
    session.attemptBatch limit = .answered (.ok (some batch)) after ∧ GoesOn fresh after := by
  have ran := (attemptBatch_answered_iff goesOn.encoding).mpr (timelyBatch_eq_some.mp timely)
  have settles := attemptBatch_settles ran goesOn.arises goesOn.live
  -- Behind a batch the output is still open.
  obtain ⟨decoder, streaming⟩ := attemptBatch_streaming ran
  exact ⟨ran, goesOn.arrow, settles.arises, by rw [streaming]; rfl, by rw [streaming]; simp,
    (goesOn.batch_short ran).2⟩

/-- The end of an export that goes on is that it completes. -/
theorem completed (goesOn : GoesOn fresh session)
    (ran : session.attemptBatch limit = .answered (.ok none) after) :
    after.phase = .completed := by
  rw [attemptBatch_eq goesOn.encoding] at ran
  have attempts : Attempts Decoder.nextBatch NamedBatch.numRows limit session
      (.answered (.ok none) after) := ran ▸ attempt_attempts session
  -- The end was met by reading from an output, one that was opened just now or before.
  cases attempts with
  | started idle spawned opened reads => cases reads with
    | completed ended settled => rfl
  | reading streaming reads => cases reads with
    | completed ended settled => rfl
  | ended past =>
    -- An end that is answered without reading is none of an export that goes on.
    rcases past with left | completed
    · exact absurd left goesOn.stays
    · exact completed

end GoesOn

/-- What gathering does, by the attempt that it makes. -/
theorem gather_eq (limit : Option Nat) (maxRows : Option UInt64) (rows : UInt64) (tables : Tables)
    (session : Session) :
    session.gather limit maxRows rows tables =
      if enough maxRows rows then
        .answered (session.stopWith tables).1 (session.stopWith tables).2
      else match session.attemptBatch limit with
        | .late session =>
          if limit.isSome then .answered (session.stopWith tables).1 (session.stopWith tables).2
          else .late session
        | .answered (.error error) session => .answered (.error error) session
        | .answered (.ok none) session => .answered (.ok tables) session
        | .answered (.ok (some batch)) session =>
          session.gather limit maxRows (rows + (trimBatch maxRows rows batch).numRows)
            (tables.push (trimBatch maxRows rows batch)) := by
  rw [gather]
  split
  · rfl
  · split <;> simp only [*]

/-- A batch that is read is added without its rows beyond those wanted. -/
theorem gather_batch {limit : Option Nat} {maxRows : Option UInt64} {rows : UInt64}
    {session after : Session} {batch : NamedBatch} (few : enough maxRows rows = false)
    (ran : session.attemptBatch limit = .answered (.ok (some batch)) after) (tables : Tables) :
    session.gather limit maxRows rows tables
      = after.gather limit maxRows (rows + (trimBatch maxRows rows batch).numRows)
        (tables.push (trimBatch maxRows rows batch)) := by
  rw [gather_eq limit maxRows rows tables session, few, ran]
  rfl

section

variable {fresh session rest : Session} {limit : Option Nat} {batches : List NamedBatch}

/-- Behind batches that come in time the export goes on. -/
theorem GoesOn.through (goesOn : GoesOn fresh session)
    (repeats : Repeats (timelyBatch limit) session batches rest) : GoesOn fresh rest := by
  induction repeats with
  | done => exact goesOn
  | again timely behind ih => exact ih (goesOn.batch timely).2

/-- Where one row is wanted, the counter can tell the rows of the batches up to it. -/
theorem GoesOn.fitsCounter_one (goesOn : GoesOn fresh session)
    (repeats : Repeats (timelyBatch limit) session batches rest) : FitsCounter 1 0 batches := by
  intro front batch back split short
  rw [split] at repeats
  obtain ⟨middle, before, behind⟩ := repeats.split
  -- There are no rows before the batch, and its own ones are not too many.
  cases behind with
  | again timely others =>
    have onward := goesOn.through before
    obtain ⟨ran, _⟩ := onward.batch timely
    obtain ⟨size, _⟩ := onward.batch_short ran
    have none : (rowsIn front).length = 0 := by omega
    simpa [none] using size

/-- Where there is no limit on time, the batches of calls for batches come in time. -/
theorem timely_of_repeats
    (repeats : Repeats nextBatch session (Arrow.Batches.answersOf batches) rest) :
    Repeats (timelyBatch none) session batches rest := by
  -- The induction is on the batches; without a limit each of them is in time.
  induction batches generalizing session with
  | nil =>
    cases repeats
    exact .done rest
  | cons batch batches ih =>
    cases repeats with
    | again answered behind =>
      exact .again (timelyBatch_eq_some.mpr ⟨answered, rfl⟩) (ih behind)

/-- Batches with which there are not enough rows yet are all gathered. -/
theorem gather_few (repeats : Repeats (timelyBatch limit) session batches rest)
    (goesOn : GoesOn fresh session) {maxRows : Option UInt64} {rows : UInt64}
    (few : ∀ most, maxRows = some most → rows.toNat + (rowsIn batches).length < most.toNat)
    (tables : Tables) :
    session.gather limit maxRows rows tables
      = rest.gather limit maxRows (rows + UInt64.ofNat (rowsIn batches).length)
        (tables.pushAll batches) := by
  -- The induction is on the batches, each of which is added whole.
  induction repeats generalizing rows tables with
  | done session => simp [Tables.pushAll]
  | @again session next after batch others timely behind ih =>
    obtain ⟨ran, onward⟩ := goesOn.batch timely
    simp only [Tables.rowsIn_cons, List.length_append, NamedBatch.length_namedRows] at few
    -- There are too few rows with all batches, so there are with this one, and before it.
    have added (most : UInt64) (wanted : maxRows = some most) :
        rows.toNat + batch.table.length < most.toNat := by
      have less := few most wanted
      omega
    have before (most : UInt64) (wanted : maxRows = some most) : rows.toNat < most.toNat := by
      have less := few most wanted
      omega
    have later (most : UInt64) (wanted : maxRows = some most) :
        (rows + batch.numRows).toNat + (rowsIn others).length < most.toNat := by
      rw [toNat_add_numRows (Nat.lt_trans (added most wanted) most.toNat_lt), Nat.add_assoc]
      exact few most wanted
    -- Once the batch is added, gathering goes on with the others as it began.
    rw [gather_batch (not_enough before) ran, trimBatch_of_few added, ih onward later,
      Tables.rowsIn_cons, List.length_append, NamedBatch.length_namedRows, UInt64.ofNat_add,
      ← UInt64.add_assoc]
    rfl

/-- A batch that lets the counter start again is added whole, and gathering goes on behind it. -/
theorem gather_wraps {front : List NamedBatch} {batch : NamedBatch} {middle next : Session}
    (before : Repeats (timelyBatch limit) session front middle) (goesOn : GoesOn fresh session)
    (timely : middle.timelyBatch limit = some (batch, next)) {most : UInt64}
    (short : (rowsIn front).length < most.toNat)
    (wraps : Nat.pow 2 64 ≤ (rowsIn front).length + batch.table.length) :
    ∃ rows, session.gather limit (some most) 0 {}
      = next.gather limit (some most) rows (Tables.pushAll {} (front ++ [batch])) := by
  obtain ⟨ran, _⟩ := (goesOn.through before).batch timely
  obtain ⟨size, _⟩ := (goesOn.through before).batch_short ran
  -- The rows before the batch are counted, as there are too few of them.
  have few (other : UInt64) (same : some most = some other) :
      (0 : UInt64).toNat + (rowsIn front).length < other.toNat := by
    cases same
    simpa using short
  have counted : (0 + UInt64.ofNat (rowsIn front).length).toNat = (rowsIn front).length := by
    rw [UInt64.zero_add, UInt64.toNat_ofNat_of_lt' (Nat.lt_trans short most.toNat_lt)]
  rw [← counted] at short wraps
  have lacking : enough (some most) (0 + UInt64.ofNat (rowsIn front).length) = false :=
    not_enough fun other same => by
      cases same
      exact short
  -- The wrapped count of the rows with the batch is below the limit, so none of them is left out.
  rw [gather_few before goesOn few {}, gather_batch lacking ran,
    trimBatch_of_wraps short size wraps, Tables.pushAll, Tables.pushAll, List.foldl_append]
  exact ⟨_, rfl⟩

/-- Where as many rows are there as are wanted, nothing more is read, and the export is called off. -/
theorem gather_enough (goesOn : GoesOn fresh session) {report : ExitReport}
    (terminates : fresh.engine.terminated = .ok report) {most rows : UInt64}
    (plenty : most.toNat ≤ rows.toNat) (tables : Tables) (batches : List NamedBatch) :
    ∃ after, session.gather limit (some most) rows tables
        = .answered (.ok (tables.pushAll (firstRows (most.toNat - rows.toNat) batches))) after ∧
      after.phase = .cancelled := by
  have reached : enough (some most) rows = true := enough_iff.mpr plenty
  have none : most.toNat - rows.toNat = 0 := Nat.sub_eq_zero_of_le plenty
  -- The export is called off with what was gathered.
  obtain ⟨answer, cancelled⟩ := stopWith_live goesOn.arises goesOn.live terminates tables
  refine ⟨_, ?_, cancelled⟩
  rw [gather_eq, reached, if_pos rfl, answer, none, firstRows]
  rfl

/-- Batches that hold as many rows as are wanted are gathered up to the last of these, and then the
export is called off. -/
theorem gather_reached (repeats : Repeats (timelyBatch limit) session batches rest)
    (goesOn : GoesOn fresh session) {report : ExitReport}
    (terminates : fresh.engine.terminated = .ok report) {most rows : UInt64}
    (plenty : most.toNat ≤ rows.toNat + (rowsIn batches).length)
    (counts : FitsCounter most.toNat rows.toNat batches) (tables : Tables) :
    ∃ after, session.gather limit (some most) rows tables
        = .answered (.ok (tables.pushAll (firstRows (most.toNat - rows.toNat) batches))) after ∧
      after.phase = .cancelled := by
  -- The induction is on the batches; the rows that are still wanted become fewer.
  induction repeats generalizing rows tables with
  | done session => exact gather_enough goesOn terminates plenty tables []
  | @again session next after batch others timely behind ih =>
    rcases Nat.lt_or_ge rows.toNat most.toNat with short | reached
    · obtain ⟨ran, onward⟩ := goesOn.batch timely
      have fits := counts.head short
      obtain ⟨wanted, size⟩ : ∃ wanted, most.toNat - rows.toNat = wanted + 1 :=
        ⟨most.toNat - rows.toNat - 1, by omega⟩
      -- Of the batch as many rows are taken as are wanted, and the others are wanted behind it.
      let cut : NamedBatch := { batch with table := batch.table.take (wanted + 1) }
      have trimmed : trimBatch (some most) rows batch = cut := by
        rw [trimBatch_of_fits short fits, size]
      have length : cut.table.length = min (wanted + 1) batch.table.length :=
        Arrow.Rows.length_take _ _
      have counted : (rows + cut.numRows).toNat = rows.toNat + cut.table.length :=
        toNat_add_numRows (by omega)
      rw [Tables.rowsIn_cons, List.length_append, NamedBatch.length_namedRows] at plenty
      have others : FitsCounter most.toNat (rows + cut.numRows).toNat others := by
        -- Where rows of the batch are left out, there are enough, and nothing more is counted.
        rcases Nat.lt_or_ge batch.table.length (wanted + 1) with whole | beyond
        · rw [counted, length, Nat.min_eq_right (Nat.le_of_lt whole)]
          exact counts.tail
        · intro front other back split few
          omega
      obtain ⟨last, gathered, cancelled⟩ := ih onward (by omega) others (tables.push cut)
      refine ⟨last, ?_, cancelled⟩
      have left : most.toNat - (rows + cut.numRows).toNat = wanted + 1 - batch.table.length := by
        omega
      rw [gather_batch (not_enough fun other same => by cases same; exact short) ran, trimmed,
        gathered, left, size, firstRows]
      rfl
    · -- What is wanted is there already, so the batch is not even read.
      exact gather_enough goesOn terminates reached tables (batch :: others)

/-- Behind the batches, gathering ends as what comes next does. -/
theorem gather_ends (goesOn : GoesOn fresh rest) {report : ExitReport}
    (terminates : fresh.engine.terminated = .ok report) {ending : Ending}
    (ends : Ends limit rest ending) {maxRows : Option UInt64} {rows : UInt64}
    (few : enough maxRows rows = false) (tables : Tables) :
    match ending with
    | .completed => ∃ after, rest.gather limit maxRows rows tables = .answered (.ok tables) after ∧
        after.phase = .completed
    | .failed error => ∃ after, rest.gather limit maxRows rows tables
        = .answered (.error error) after
    | .deadline => ∃ after, rest.gather limit maxRows rows tables = .answered (.ok tables) after ∧
        after.phase = .cancelled
    | .never => ∃ after, rest.gather limit maxRows rows tables = .late after := by
  rw [gather_eq, few]
  -- What ends the batches is answered in time, or is not and then meets the limit.
  cases ends with
  -- An end or a failure that comes in time is answered as it is.
  | completed answered punctual =>
    have ran := (attemptBatch_answered_iff goesOn.encoding).mpr ⟨answered, punctual⟩
    rw [ran]
    exact ⟨_, rfl, goesOn.completed ran⟩
  | failed answered punctual =>
    have ran := (attemptBatch_answered_iff goesOn.encoding).mpr ⟨answered, punctual⟩
    rw [ran]
    exact ⟨_, rfl⟩
  | deadline limited overdue =>
    obtain ⟨after, late⟩ := attemptBatch_late goesOn.encoding overdue
    -- What has come too late is not over yet, and is called off.
    have arises := (attemptBatch_settles late goesOn.arises goesOn.live).arises
    have live := live_of_late goesOn.encoding late
    obtain ⟨answer, cancelled⟩ := stopWith_live arises live terminates tables
    have limited : limit.isSome = true := Option.isSome_iff_ne_none.mpr limited
    refine ⟨_, ?_, cancelled⟩
    rw [late, ← answer]
    exact if_pos limited
  | never unlimited silent =>
    -- Without a limit an attempt that is late is one that waits for ever.
    have overdue : ∀ answer after, rest.nextBatch = some (answer, after) →
        inTime limit rest.batchTime = false := by
      intro answer after answered
      cases silent.symm.trans answered
    obtain ⟨after, late⟩ := attemptBatch_late goesOn.encoding overdue
    refine ⟨after, ?_⟩
    rw [late, unlimited]
    rfl

end

/-- Gathering adds batches to the tables that it begins with. -/
theorem Gathers.adds {limit : Option Nat} {maxRows : Option UInt64} {rows : UInt64}
    {session after : Session} {tables gathered : Tables} {result : Attempt Tables}
    (gathers : Gathers limit maxRows rows tables session result)
    (answered : result = .answered (.ok gathered) after) :
    ∃ batches, gathered = tables.pushAll batches := by
  -- What is answered when the export is called off is what was gathered until then.
  have stopped {session : Session} {tables : Tables}
      (same : Attempt.answered (session.stopWith tables).1 (session.stopWith tables).2
        = .answered (.ok gathered) after) : gathered = tables := by
    injection same with answer _
    obtain ⟨_, _, rfl⟩ := map_eq_ok_iff.mp answer
    rfl
  -- The induction is on the batches gathered, each of which is added behind the others.
  induction gathers with
  | reached plenty => exact ⟨[], stopped answered⟩
  | stopped ran limited => exact ⟨[], stopped answered⟩
  | stuck ran unlimited => cases answered
  | failed ran => cases answered
  | ended ran =>
    cases answered
    exact ⟨[], rfl⟩
  | batch ran rest ih =>
    obtain ⟨batches, same⟩ := ih answered
    exact ⟨_ :: batches, same⟩

/-- What gathering answers holds at least the rows that it begins with. -/
theorem length_le_of_gather {limit : Option Nat} {maxRows : Option UInt64} {rows : UInt64}
    {session after : Session} {batches : List NamedBatch} {gathered : Tables}
    (answered : session.gather limit maxRows rows (Tables.pushAll {} batches)
      = .answered (.ok gathered) after)
    {held : List Arrow.NamedRow} (holds : gathered.Holds held) :
    (rowsIn batches).length ≤ held.length := by
  obtain ⟨others, rfl⟩ := (gather_gathers _ _ session).adds answered
  have all := (Tables.holds_empty.pushAll batches).pushAll others
  -- Tables have one number of rows, however these are told apart.
  rw [← holds.total, all.total, List.nil_append, List.length_append]
  exact Nat.le_add_right _ _

/-- Whether gathering an export of a request within bounds is allowed: it ends by itself, or there is
a bound that ends it. -/
def Admits (request : ExportRequest) (bound : CollectBound) : Prop :=
  mayEnd request = true ∨ bound.isUnbounded = false

/-- Whether the clock can tell when the time of a bound is up, for an export that is yet to begin. -/
def IsTellable (bound : CollectBound) : Prop :=
  ∀ time, bound.timeout = some time → time ≤ Platform.lastInstant

section

variable {fresh rest : Session} {bound : CollectBound} {batches : List NamedBatch}
  {report : ExitReport}

/-- A fresh Arrow export within bounds that are allowed is gathered from its start, unless the call
breaks off. -/
theorem attemptCollect_fresh (arrow : fresh.request.encoding = .arrow)
    (admits : Admits fresh.request bound) (idle : fresh.phase = .idle) :
    (IsTellable bound →
      fresh.attemptCollect bound = some (fresh.gather bound.timeout bound.maxRows 0 {})) ∧
    (¬IsTellable bound → fresh.attemptCollect bound = none) := by
  -- Neither the encoding nor the want of an end turns the call down.
  have json : fresh.request.encoding ≠ .json := by
    rw [arrow]
    simp
  have allowed : ¬(!mayEnd fresh.request && bound.isUnbounded) = true := by
    rcases admits with ends | bounded <;> simp [*]
  -- The time counts from the start of the engine, which is yet to come.
  have start : fresh.deadline bound = bound.timeout := by
    have none : fresh.now = 0 := by rw [now, idle]
    cases time : bound.timeout <;> simp [deadline, none, time]
  have told : bound.timeout.all (· ≤ Platform.lastInstant) = true ↔ IsTellable bound := by
    cases time : bound.timeout <;> simp [IsTellable, time]
  rw [attemptCollect, if_neg json, if_neg allowed, start]
  exact ⟨fun tellable => if_pos (told.mpr tellable), fun absurd => if_neg (mt told.mp absurd)⟩

/-- Where the clock can tell the deadline, such an export is answered as it is gathered. -/
theorem collect_fresh (arrow : fresh.request.encoding = .arrow) (admits : Admits fresh.request bound)
    (idle : fresh.phase = .idle) (tellable : IsTellable bound) :
    fresh.collect bound = (fresh.gather bound.timeout bound.maxRows 0 {}).answer? := by
  rw [collect, (attemptCollect_fresh arrow admits idle).1 tellable, Option.bind_some]

/-- Where no rows are wanted, an export that has not begun is called off before its engine is
started. -/
theorem calls_of_gather_none {limit : Option Nat} {tables : Tables}
    {answer : Except Error Tables} {after : Session} (idle : fresh.phase = .idle)
    (gathered : fresh.gather limit (some 0) 0 tables = .answered answer after) :
    after.calls = fresh.calls := by
  -- No rows are wanted, so the export is called off at once.
  have called : fresh.gather limit (some 0) 0 tables
      = .answered (fresh.stopWith tables).1 (fresh.stopWith tables).2 := gather_eq _ _ _ _ _
  injection called.symm.trans gathered with _ same
  rw [← same, stopWith, cancel, idle]
  rfl

/-- What gathering within a bound answers where rows come in time, and then an ending. -/
def Collects (bound : CollectBound) (rows : List Arrow.NamedRow) (fresh : Session) : Ending → Prop
  | .completed => ∃ tables after, fresh.collect bound = some (.ok tables, after) ∧
      tables.Holds rows ∧ after.phase = .completed
  | .failed error => ∃ after, fresh.collect bound = some (.error error, after)
  | .deadline => ∃ tables after, fresh.collect bound = some (.ok tables, after) ∧
      tables.Holds rows ∧ after.phase = .cancelled
  | .never => fresh.collect bound = none

/-- Gathering an export as its callers are told that it goes. Batches that come in time and hold as
many rows as are wanted settle the answer, whatever comes behind them: it is the first of their rows,
by name and in order, and the export is cancelled; where no rows are wanted, the engine is not even
started. Otherwise what comes behind the batches decides: the rows of all of them are answered if the
export completes, or if the time is up, which cancels it, and a failure is answered as such. -/
structure GathersAsTold (bound : CollectBound) (fresh : Session) : Prop where
  plenty : ∀ most batches rest, bound.maxRows = some most →
    Repeats (timelyBatch bound.timeout) fresh batches rest → most.toNat ≤ (rowsIn batches).length →
    ∃ tables after, fresh.collect bound = some (.ok tables, after) ∧
      tables.Holds ((rowsIn batches).take most.toNat) ∧ tables.totalRows = most ∧
      after.phase = .cancelled ∧ (most = 0 → after.calls = fresh.calls)
  few : ∀ batches rest ending, Repeats (timelyBatch bound.timeout) fresh batches rest →
    Ends bound.timeout rest ending →
    (∀ most, bound.maxRows = some most → (rowsIn batches).length < most.toNat) →
    fresh.Collects bound (rowsIn batches) ending

/-- Batches that come in time and hold as many rows as are wanted settle the answer, if the clock can
tell the deadline and the counter the rows. -/
theorem collect_plenty (goesOn : GoesOn fresh fresh) (idle : fresh.phase = .idle)
    (admits : Admits fresh.request bound) (terminates : fresh.engine.terminated = .ok report)
    (tellable : IsTellable bound) {most : UInt64} (wanted : bound.maxRows = some most)
    (repeats : Repeats (timelyBatch bound.timeout) fresh batches rest)
    (plenty : most.toNat ≤ (rowsIn batches).length) (counts : FitsCounter most.toNat 0 batches) :
    ∃ tables after, fresh.collect bound = some (.ok tables, after) ∧
      tables.Holds ((rowsIn batches).take most.toNat) ∧ tables.totalRows = most ∧
      after.phase = .cancelled ∧ (most = 0 → after.calls = fresh.calls) := by
  -- The call is answered as gathering from the start is.
  have start := collect_fresh goesOn.arrow admits idle tellable
  have reached : most.toNat ≤ (0 : UInt64).toNat + (rowsIn batches).length := by simpa using plenty
  obtain ⟨after, gathered, cancelled⟩ := gather_reached repeats goesOn terminates reached counts {}
  rw [wanted, gathered] at start
  -- Of the rows that come in time the first ones are held, which are as many as are wanted.
  rw [UInt64.toNat_zero, Nat.sub_zero] at start
  have holds := Tables.holds_empty.pushAll (firstRows most.toNat batches)
  rw [List.nil_append, Tables.rowsIn_firstRows] at holds
  refine ⟨_, after, start, holds, ?_, cancelled, fun none => ?_⟩
  · rw [holds.totalRows_eq, List.length_take, Nat.min_eq_left plenty, UInt64.ofNat_toNat]
  · cases none
    exact calls_of_gather_none idle gathered

/-- Where the batches that come in time hold too few rows, what comes behind them decides, if the clock
can tell the deadline. -/
theorem collect_few (goesOn : GoesOn fresh fresh) (idle : fresh.phase = .idle)
    (admits : Admits fresh.request bound) (terminates : fresh.engine.terminated = .ok report)
    (tellable : IsTellable bound)
    (repeats : Repeats (timelyBatch bound.timeout) fresh batches rest) {ending : Ending}
    (ends : Ends bound.timeout rest ending)
    (few : ∀ most, bound.maxRows = some most → (rowsIn batches).length < most.toNat) :
    fresh.Collects bound (rowsIn batches) ending := by
  have start := collect_fresh goesOn.arrow admits idle tellable
  have holds : (Tables.pushAll {} batches).Holds (rowsIn batches) :=
    Tables.holds_empty.pushAll batches
  -- All of the batches are gathered, and behind them the ending is met.
  have none (most : UInt64) (wanted : bound.maxRows = some most) :
      (0 : UInt64).toNat + (rowsIn batches).length < most.toNat := by
    simpa using few most wanted
  have gathered := gather_few repeats goesOn none {}
  -- The rows of all batches are still too few.
  have short : enough bound.maxRows (0 + UInt64.ofNat (rowsIn batches).length) = false := by
    refine not_enough fun most wanted => ?_
    have less := few most wanted
    rw [UInt64.zero_add, UInt64.toNat_ofNat_of_lt' (Nat.lt_trans less most.toNat_lt)]
    exact less
  have ended := gather_ends (goesOn.through repeats) terminates ends short (Tables.pushAll {} batches)
  rw [gathered] at start
  cases ending with
  | completed =>
    obtain ⟨after, answered, completed⟩ := ended
    rw [answered] at start
    exact ⟨_, after, start, holds, completed⟩
  | failed error =>
    obtain ⟨after, answered⟩ := ended
    rw [answered] at start
    exact ⟨after, start⟩
  | deadline =>
    obtain ⟨after, answered, cancelled⟩ := ended
    rw [answered] at start
    exact ⟨_, after, start, holds, cancelled⟩
  | never =>
    obtain ⟨after, late⟩ := ended
    rw [late] at start
    exact start

/-- A call that breaks off is not what callers are told. -/
theorem GathersAsTold.tellable (told : fresh.GathersAsTold bound)
    (arrow : fresh.request.encoding = .arrow) (admits : Admits fresh.request bound)
    (idle : fresh.phase = .idle) : IsTellable bound := by
  by_contra untold
  have broken : fresh.collect bound = none := by
    rw [collect, (attemptCollect_fresh arrow admits idle).2 untold, Option.bind_none]
  obtain ⟨batches, rest, ending, repeats, ends⟩ := exists_ends bound.timeout fresh
  -- Callers are told an answer, whether rows enough come or not.
  by_cases plenty : ∃ most, bound.maxRows = some most ∧ most.toNat ≤ (rowsIn batches).length
  · obtain ⟨most, wanted, reached⟩ := plenty
    obtain ⟨tables, after, answered, _⟩ := told.plenty most batches rest wanted repeats reached
    cases broken.symm.trans answered
  · have few := told.few batches rest ending repeats ends fun most wanted =>
      Nat.lt_of_not_le fun reached => plenty ⟨most, wanted, reached⟩
    -- Only an export that never ends is not answered, and it has no deadline.
    cases ends with
    | completed answered punctual =>
      obtain ⟨tables, after, answered, _⟩ := few
      cases broken.symm.trans answered
    | failed answered punctual =>
      obtain ⟨after, answered⟩ := few
      cases broken.symm.trans answered
    | deadline limited late =>
      obtain ⟨tables, after, answered, _⟩ := few
      cases broken.symm.trans answered
    | never unlimited silent =>
      refine untold fun time limited => ?_
      cases unlimited.symm.trans limited

/-- Nor is it that more rows are answered than are wanted, as where the counter starts again. -/
theorem GathersAsTold.fitsCounter (told : fresh.GathersAsTold bound) (goesOn : GoesOn fresh fresh)
    (idle : fresh.phase = .idle) (admits : Admits fresh.request bound) {most : UInt64}
    (wanted : bound.maxRows = some most)
    (repeats : Repeats (timelyBatch bound.timeout) fresh batches rest) :
    FitsCounter most.toNat 0 batches := by
  intro front batch back split short
  by_contra wraps
  rw [Nat.zero_add] at short wraps
  have wraps := Nat.le_of_not_lt wraps
  rw [split] at repeats
  obtain ⟨middle, before, behind⟩ := repeats.split
  cases behind with
  | @again _ next _ _ _ timely _ =>
    -- What callers are told has as many rows as are wanted.
    have beyond : most.toNat < (rowsIn (front ++ [batch])).length :=
      Nat.lt_of_lt_of_le most.toNat_lt wraps
    have plenty : most.toNat ≤ (rowsIn (front ++ [batch])).length := Nat.le_of_lt beyond
    obtain ⟨tables, after, answered, holds, _⟩ := told.plenty most (front ++ [batch]) next wanted
      (before.append (.again timely (.done next))) plenty
    -- What is gathered has at least the rows up to those of the batch, and so too many.
    rw [Tables.rowsIn_append, List.length_append, Tables.rowsIn_cons, Tables.rowsIn_nil,
      List.append_nil, NamedBatch.length_namedRows] at wraps
    obtain ⟨rows, onward⟩ := gather_wraps before goesOn timely short wraps
    have start := collect_fresh goesOn.arrow admits idle (told.tellable goesOn.arrow admits idle)
    rw [wanted, onward, answered] at start
    have many := length_le_of_gather (Attempt.answer?_eq_some.mp start.symm) holds
    rw [List.length_take] at many
    omega

end

end

/-- An export of an engine that writes a batch of two rows at first. -/
def twoRows : Session where
  engine := { output := [.data Arrow.Stream.columnless.written] }
  invocation := ⟨"tenzir-ctl", ["--endpoint=h:1", "export", "arrow"]⟩
  request := { encoding := .arrow }
  grace := 3000

/-- The batch of two rows. -/
def twoRowsBatch : NamedBatch :=
  ⟨"s.a", Arrow.Stream.columnlessSchema, .bare 2⟩

/-- The batch of two rows is handed out. -/
theorem twoRows_repeats [Platform] :
    ∃ rest, Repeats nextBatch twoRows [.ok (some twoRowsBatch)] rest := by
  have heard : Arrow.Stream.heardAll [Arrow.Stream.columnless] = some [twoRowsBatch] := by rfl
  have holds := Source.holds_data Arrow.Stream.columnless.written
  exact repeats_of_heard heard rfl rfl rfl (List.flatMap_singleton _ _ ▸ holds)

end EngineClient.Session
