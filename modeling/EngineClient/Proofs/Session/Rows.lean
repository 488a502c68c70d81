import EngineClient.Proofs.Arrow.Rows
import EngineClient.Proofs.Arrow.Streams
import EngineClient.Proofs.Decoder
import EngineClient.Proofs.Session.Attempts
import EngineClient.Proofs.Session.Calls

/-! Events and batches that are read in turn are the rows of the batches, each once and in order. -/

namespace EngineClient.Session

open Arrow (Batches NamedBatch NamedRow)
open Arrow.Batches (HandsEvent HandsBatch Takes)

section

variable [Platform]

/-- Each batch leaves less to be read. -/
theorem nextBatch_consumes : Consumes nextBatch remaining :=
  fun _ _ _ ran => Prod.lex_def.mpr (attemptBatch_remaining (Attempt.answer?_eq_some.mp ran))

/-- The rows that an export hands out when it is read batch by batch from now on. -/
def rowsAhead (session : Session) : List NamedRow :=
  (itemsOf nextBatch_consumes session).flatMap NamedBatch.namedRows

/-- An Arrow export, of which rows are read. -/
structure IsTabular (session : Session) : Prop where
  encoding : session.request.encoding = .arrow
  reader : ∀ decoder, session.phase = .streaming decoder → ∃ batches, decoder = .arrow batches

section

variable {session : Session}

/-- A batch takes its rows from those ahead. -/
theorem rowsAhead_batch {after : Session} {batch : NamedBatch}
    (ran : session.nextBatch = some (.ok (some batch), after)) :
    session.rowsAhead = batch.namedRows ++ after.rowsAhead := by
  rw [rowsAhead, itemsOf_item _ ran, List.flatMap_cons]
  rfl

/-- Where no batch comes, no rows are ahead. -/
theorem rowsAhead_bare (bare : ∀ batch after, session.nextBatch ≠ some (.ok (some batch), after)) :
    session.rowsAhead = [] := by
  rw [rowsAhead, itemsOf_bare _ bare, List.flatMap_nil]

/-- What is ahead hangs on the next batch alone. -/
theorem rowsAhead_of_same {one other : Session} (same : one.nextBatch = other.nextBatch) :
    one.rowsAhead = other.rowsAhead := by
  rw [rowsAhead, rowsAhead, itemsOf_of_same _ same]

/-- Where no output is read from, no rows are ahead. -/
theorem rowsAhead_of_ready {answer : Except Error Unit} {after : Session}
    (arrow : session.request.encoding = .arrow)
    (ready : session.ready = (answer.map fun _ => none, after)) : session.rowsAhead = [] := by
  refine rowsAhead_bare fun batch other => ?_
  rw [nextBatch, attemptBatch_eq arrow, attempt, ready]
  cases answer <;> simp [Except.map, Attempt.answer?]

/-- An export that is over has no rows ahead. -/
theorem rowsAhead_terminal (arrow : session.request.encoding = .arrow)
    (terminal : session.phase.isTerminal = true) : session.rowsAhead = [] := by
  -- A call is answered without any reading then, by the end or by the failure.
  have found : ∃ answer : Except Error Unit,
      session.ready = (answer.map fun _ => none, session) := by
    unfold ready
    cases phase : session.phase with
    | completed => exact ⟨.ok (), rfl⟩
    | cancelled => exact ⟨.error _, rfl⟩
    | failed kind reason => exact ⟨.error _, rfl⟩
    | _ => simp [phase, Phase.isTerminal] at terminal
  -- A call that reads nothing finds no batch.
  obtain ⟨answer, ready⟩ := found
  exact rowsAhead_of_ready arrow ready

/-- The rows ahead of an export that is being read from are those ahead of its reader. -/
theorem rowsAhead_streaming {batches : Batches} (arrow : session.request.encoding = .arrow)
    (streaming : session.phase = .streaming (.arrow batches)) :
    session.rowsAhead = batches.ahead := by
  -- The induction is on what is left to be read; each batch is one of the reader.
  induction sized : batches.remaining using (Prod.lex Nat.lt_wfRel Nat.lt_wfRel).wf.induction
    generalizing batches session with
  | h size ih =>
    -- A call on the export asks its reader, without a limit on time.
    have attempt : session.nextBatch = (session.readFrom Decoder.nextBatch
        NamedBatch.numRows none (.arrow batches)).answer? := by
      rw [nextBatch, attemptBatch_eq arrow, attempt_streaming streaming]
    cases brought : batches.nextBatch with
    | none =>
      -- Where the reader hangs, so does the export.
      have stuck : session.nextBatch = none := by
        rw [attempt]
        simp only [readFrom, Decoder.nextBatch, brought, Option.map_none, Attempt.answer?]
      rw [Arrow.Batches.ahead_bare (by simp [brought]), rowsAhead_bare (by simp [stuck])]
    | some answered =>
      obtain ⟨answer, rest⟩ := answered
      have read : (Decoder.arrow batches).nextBatch = some (answer, .arrow rest) := by
        simp only [Decoder.nextBatch, brought, Option.map_some]
      rw [readFrom_unlimited read] at attempt
      rcases answer with error | (_ | batch)
      · rw [Arrow.Batches.ahead_bare (by simp [brought]),
          rowsAhead_bare (by simp [attempt, Attempt.answer?])]
      · -- At the end of the output the engine has the last word, but no batch.
        rw [Arrow.Batches.ahead_bare (by simp [brought])]
        refine rowsAhead_bare fun batch after => ?_
        rw [attempt]
        cases (session.called .wait).finish.1 <;> simp [Except.map, Attempt.answer?]
      · -- Both hand out the same batch, and go on with less to be read.
        rw [Arrow.Batches.ahead_batch brought, rowsAhead_batch attempt]
        have shorter := Arrow.Batches.nextBatch_consumes _ _ _ brought
        congr 1
        exact ih _ (sized ▸ shorter) arrow rfl rfl

end

/-- The first batch of a fresh export is the first one of a reader of the output. -/
theorem nextBatch_started {session : Session} {batch : NamedBatch} {rest : Batches}
    (arrow : session.request.encoding = .arrow) (idle : session.phase = .idle)
    (spawned : session.engine.spawnError = none)
    (read : Batches.nextBatch { source := { events := session.engine.output } }
      = some (.ok (some batch), rest)) :
    session.nextBatch = some (.ok (some batch),
      { session.called (.spawn session.invocation.display) with
        phase := .streaming (.arrow rest), delivered := session.delivered + batch.numRows }) := by
  -- The reader is opened on the whole output.
  have opened : Decoder.nextBatch (Decoder.ofSource session.request.encoding
      { events := session.engine.output }) = some (.ok (some batch), .arrow rest) := by
    simp only [arrow, Decoder.nextBatch, Decoder.ofSource, read, Option.map_some]
  rw [nextBatch, attemptBatch_eq arrow, attempt_started idle spawned rfl, readFrom_unlimited opened]
  rfl

/-- The next batch of an export that is being read from is the next one of its reader. -/
theorem nextBatch_streaming {session : Session} {batch : NamedBatch} {reader rest : Batches}
    (arrow : session.request.encoding = .arrow)
    (streaming : session.phase = .streaming (.arrow reader))
    (read : reader.nextBatch = some (.ok (some batch), rest)) :
    session.nextBatch = some (.ok (some batch), { session with
      phase := .streaming (.arrow rest), delivered := session.delivered + batch.numRows }) := by
  have opened : Decoder.nextBatch (.arrow reader) = some (.ok (some batch), .arrow rest) := by
    simp only [Decoder.nextBatch, read, Option.map_some]
  rw [nextBatch, attemptBatch_eq arrow, attempt_streaming streaming, readFrom_unlimited opened]
  rfl

/-- An export that is being read from hands out the batches that its reader passes. -/
theorem repeats_of_passes {reader after : Batches} {batches : List NamedBatch}
    (passes : Batches.Passes reader batches after) (held : reader.held = none) {session : Session}
    (arrow : session.request.encoding = .arrow)
    (streaming : session.phase = .streaming (.arrow reader)) :
    ∃ rest, Repeats nextBatch session (Batches.answersOf batches) rest := by
  -- Behind each batch the export reads from the reader that the batch leaves.
  induction passes generalizing session with
  | same fetched => exact ⟨session, .done session⟩
  | @batch one middle other batch others fetched behind ih =>
    have kept : middle.held = none := (Batches.fetch_held one fetched).trans held
    rw [← Batches.nextBatch_eq held] at fetched
    let next : Session := { session with
      phase := .streaming (.arrow middle), delivered := session.delivered + batch.numRows }
    have first : session.nextBatch = some (.ok (some batch), next) :=
      nextBatch_streaming arrow streaming fetched
    have onward : ∃ rest, Repeats nextBatch next (Batches.answersOf others) rest :=
      ih kept arrow rfl
    exact onward.imp fun rest others => .again first others

/-- A fresh Arrow export hands out the batches that are handed out of the streams in its output. -/
theorem repeats_of_heard {streams : List Arrow.Stream} {batches : List NamedBatch}
    (heard : Arrow.Stream.heardAll streams = some batches) {session : Session}
    (arrow : session.request.encoding = .arrow) (idle : session.phase = .idle)
    (spawned : session.engine.spawnError = none)
    (holds : Source.Holds { events := session.engine.output }
      (streams.flatMap Arrow.Stream.written)) :
    ∃ rest, Repeats nextBatch session (Batches.answersOf batches) rest := by
  have comes := Batches.comes_streams streams (Batches.stands_fresh holds)
  rw [heard] at comes
  obtain ⟨after, passes, _⟩ := comes
  -- Without a batch there is no call at all.
  cases passes with
  | same fetched => exact ⟨session, .done session⟩
  | @batch one middle other batch others fetched behind =>
    -- The first call starts the engine, and the others find its output being read.
    have kept : middle.held = none := Batches.fetch_held _ fetched
    let next : Session := { session.called (.spawn session.invocation.display) with
      phase := .streaming (.arrow middle), delivered := session.delivered + batch.numRows }
    have first : session.nextBatch = some (.ok (some batch), next) :=
      nextBatch_started arrow idle spawned fetched
    have onward : ∃ rest, Repeats nextBatch next (Batches.answersOf others) rest :=
      repeats_of_passes behind kept arrow rfl
    exact onward.imp fun rest others => .again first others

/-- Calls for batches reply what they are answered. -/
theorem run_of_repeats {session after : Session}
    {answers : List (Except Error (Option NamedBatch))}
    (repeats : Repeats nextBatch session answers after) :
    session.run (List.replicate answers.length .batch) = (answers.map .batch, after) := by
  induction repeats with
  | done state => rfl
  | @again state next after answer answers answered behind ih =>
    -- None of the calls lets go of the export, so the next one is made.
    have ran : state.attemptBatch none = .answered answer next := Attempt.answer?_eq_some.mp answered
    rw [List.length_cons, List.replicate_succ, run, make, ran]
    simp only [Attempt.outcome, reduceCtorEq, if_false, ih, List.map_cons]

/-- A session that comes of another one by handing out the first of the rows ahead. The last of them
may be lost, but only where one cannot be rendered. -/
structure Moves (before after : Session) (part lost : List NamedRow) : Prop where
  tabular : after.IsTabular
  delivered : after.delivered = before.delivered + UInt64.ofNat part.length
  ahead : before.rowsAhead = part ++ after.rowsAhead ++ lost
  faulty : lost = [] ∨ ∃ row ∈ lost, ¬row.HasEvent

namespace Moves

variable {before middle after : Session} {part other lost gone : List NamedRow}

/-- A session that hands out nothing stays where it is. -/
theorem refl (tabular : before.IsTabular) : Moves before before [] [] :=
  ⟨tabular, by simp, by simp, .inl rfl⟩

/-- What is handed out in two turns, comes one behind the other. -/
theorem trans (first : Moves before middle part lost) (second : Moves middle after other gone) :
    Moves before after (part ++ other) (gone ++ lost) := by
  refine ⟨second.tabular, ?_, ?_, ?_⟩
  · rw [second.delivered, first.delivered, List.length_append, UInt64.ofNat_add, UInt64.add_assoc]
  · -- What the second turn loses came before what the first has lost already.
    rw [first.ahead, second.ahead]
    simp only [List.append_assoc]
  · -- A row that cannot be rendered is lost in one of the turns, unless nothing is lost at all.
    rcases first.faulty with rfl | ⟨row, member, absent⟩
    · rw [List.append_nil]
      exact second.faulty
    · exact .inr ⟨row, List.mem_append_right gone member, absent⟩

/-- Reading on takes rows off those ahead, as many as are counted. -/
theorem streamed {batches : Batches} {count : UInt64} (tabular : before.IsTabular)
    (first : before.rowsAhead = part ++ batches.ahead)
    (counted : count = UInt64.ofNat part.length) :
    Moves before { before with
      phase := .streaming (.arrow batches), delivered := before.delivered + count } part [] := by
  let after : Session := { before with
    phase := .streaming (.arrow batches), delivered := before.delivered + count }
  -- Behind the reading the rows ahead are those of the reader that it leaves.
  have ahead : after.rowsAhead = batches.ahead := rowsAhead_streaming tabular.encoding rfl
  have reader : after.IsTabular := ⟨tabular.encoding, fun decoder same => by
    cases same
    exact ⟨batches, rfl⟩⟩
  refine ⟨reader, congrArg (before.delivered + ·) counted, ?_, .inl rfl⟩
  rw [first, List.append_nil]
  exact congrArg (part ++ ·) ahead.symm

/-- What is still ahead when an export ends is lost. -/
theorem finish (tabular : before.IsTabular) (same : after.request = before.request)
    (delivered : after.delivered = before.delivered) (terminal : after.phase.isTerminal = true)
    (faulty : before.rowsAhead = [] ∨ ∃ row ∈ before.rowsAhead, ¬row.HasEvent) :
    Moves before after [] before.rowsAhead := by
  have arrow : after.request.encoding = .arrow := same ▸ tabular.encoding
  refine ⟨⟨arrow, fun decoder streaming => ?_⟩, by simp [delivered], ?_, faulty⟩
  · -- An export that has ended is not read from.
    rw [streaming] at terminal
    cases terminal
  · rw [rowsAhead_terminal arrow terminal, List.nil_append, List.nil_append]

end Moves

/-- What comes of an attempt, by the rows that an item hands out. -/
inductive Gives {α : Type} (Hands : α → List NamedRow → Prop) (before : Session) :
    Attempt (Option α) → Prop where
  /-- Nothing comes. -/
  | late {after : Session} (moves : Moves before after [] []) : Gives Hands before (.late after)
  /-- Rows are handed out. -/
  | item {item : α} {part : List NamedRow} {after : Session} (hands : Hands item part)
    (moves : Moves before after part []) : Gives Hands before (.answered (.ok (some item)) after)
  /-- The export has ended. -/
  | ended {after : Session} (moves : Moves before after [] []) (bare : after.rowsAhead = []) :
    Gives Hands before (.answered (.ok none) after)
  /-- The export has failed. -/
  | failed {error : Error} {after : Session} {lost : List NamedRow}
    (moves : Moves before after [] lost) : Gives Hands before (.answered (.error error) after)

/-- Where nothing is handed out before, it makes no difference that something is done. -/
theorem Gives.behind {α : Type} {Hands : α → List NamedRow → Prop} {before middle : Session}
    {result : Attempt (Option α)} (moves : Moves before middle [] [])
    (gives : Gives Hands middle result) : Gives Hands before result := by
  -- The move in front changes none of what is answered.
  cases gives with
  | late other => exact .late (moves.trans other)
  | item hands other => exact .item hands (moves.trans other)
  | ended other bare => exact .ended (moves.trans other) bare
  | failed other => exact .failed (moves.trans other)

/-- Starting the engine hands out nothing. -/
theorem start_moves {session : Session} (tabular : session.IsTabular)
    (idle : session.phase = .idle) (spawned : session.engine.spawnError = none)
    {decoder : Decoder} (opened : decoder
      = Decoder.ofSource session.request.encoding { events := session.engine.output }) :
    Moves session
      { session.called (.spawn session.invocation.display) with phase := .streaming decoder }
      [] [] := by
  have arrow := tabular.encoding
  let started : Session :=
    { session.called (.spawn session.invocation.display) with phase := .streaming decoder }
  have reader : started.IsTabular := ⟨arrow, fun other same => by
    cases same
    rw [opened, arrow]
    exact ⟨_, rfl⟩⟩
  -- The first batch is the same one, whether the engine is started before or for it.
  have same : session.nextBatch = started.nextBatch := by
    rw [nextBatch, nextBatch, attemptBatch_eq arrow, attemptBatch_eq reader.encoding,
      attempt_started idle spawned opened, attempt_streaming rfl]
  -- Starting counts nothing, and the rows ahead are the same.
  refine ⟨reader, by simp [called], ?_, .inl rfl⟩
  rw [List.nil_append, List.append_nil]
  exact rowsAhead_of_same same

/-- A reading that takes rows off those ahead, and counts them. -/
structure TakesRows {α : Type} (read : Decoder → Decoder.Answer α) (count : α → UInt64)
    (Hands : α → List NamedRow → Prop) : Prop where
  takes (batches : Batches) : ∃ result, Takes Hands batches.ahead result ∧
    read (.arrow batches) = result.map fun (answer, rest) => (answer, .arrow rest)
  counts {item : α} {part : List NamedRow} (hands : Hands item part) :
    count item = UInt64.ofNat part.length

/-- Events take rows one by one. -/
theorem nextRecord_takesRows : TakesRows Decoder.nextRecord (fun _ => 1) HandsEvent where
  takes batches := ⟨_, batches.nextRecord_takes, rfl⟩
  counts hands := by
    obtain ⟨row, rfl, rendered⟩ := hands
    rfl

/-- Batches take all their rows. -/
theorem nextBatch_takesRows :
    TakesRows Decoder.nextBatch NamedBatch.numRows HandsBatch where
  takes batches := ⟨_, batches.nextBatch_takes, rfl⟩
  counts hands := by
    rw [hands, NamedBatch.length_namedRows, NamedBatch.numRows]

namespace TakesRows

variable {α : Type} {read : Decoder → Decoder.Answer α} {count : α → UInt64}
  {Hands : α → List NamedRow → Prop} {session : Session}

/-- Reading from an output gives the first of the rows ahead. -/
theorem gives_of_reads (takesRows : TakesRows read count Hands) (tabular : session.IsTabular)
    {decoder : Decoder} (streaming : session.phase = .streaming decoder)
    {result : Attempt (Option α)} (reads : Reads read count none decoder session result) :
    Gives Hands session result := by
  obtain ⟨batches, rfl⟩ := tabular.reader decoder streaming
  obtain ⟨answered, takes, ran⟩ := takesRows.takes batches
  -- The rows ahead of the export are those of its reader, so what the reader takes is taken of them.
  rw [← rowsAhead_streaming tabular.encoding streaming] at takes
  cases reads with
  | nothing => exact .late (.refl tabular)
  | left ended punctual late => cases late
  | item brought =>
    rw [ran] at brought
    cases takes with
    | item hands first =>
      cases brought
      exact .item hands (.streamed tabular first (takesRows.counts hands))
    | _ => cases brought
  -- The end of the engine settles the export well.
  | completed ended settled =>
    rw [ran] at ended
    cases takes with
    | ended bare =>
      have moves : Moves session { session.called .wait with phase := .completed } []
          session.rowsAhead := .finish tabular rfl rfl rfl (.inl bare)
      -- The reader has come to its end, so nothing is lost.
      rw [bare] at moves
      exact .ended moves (rowsAhead_terminal tabular.encoding rfl)
    | _ => cases ended
  -- The rows are all handed out, though the end of the engine is a bad one.
  | refused ended settled =>
    rw [ran] at ended
    cases takes with
    | ended bare => exact .failed (.finish tabular rfl rfl rfl (.inl bare))
    | _ => cases ended
  | broken failed =>
    rw [ran] at failed
    cases takes with
    | broken bare => exact .failed (.finish tabular rfl rfl rfl (.inl bare))
    -- The row that cannot be rendered is among those that are lost.
    | unrendered member absent =>
      exact .failed (.finish tabular rfl rfl rfl (.inr ⟨_, member, absent⟩))
    | _ => cases failed

/-- An attempt to read gives the first of the rows ahead. -/
theorem gives (takesRows : TakesRows read count Hands) (tabular : session.IsTabular) :
    Gives Hands session (session.attempt read count none) := by
  have attempts : Attempts read count none session (session.attempt read count none) :=
    attempt_attempts session
  generalize session.attempt read count none = result at attempts
  have arrow := tabular.encoding
  cases attempts with
  | unstarted idle spawned =>
    -- An engine that cannot be started writes no rows.
    have bare : session.rowsAhead = [] := rowsAhead_bare fun batch after => by
      rw [nextBatch, attemptBatch_eq arrow, attempt_unstarted idle spawned]
      exact (nomatch ·)
    exact .failed (.finish tabular rfl rfl rfl (.inl bare))
  -- What is started has the rows ahead that reading it takes from.
  | started idle spawned fresh reads =>
    have moves := start_moves tabular idle spawned fresh
    exact .behind moves (takesRows.gives_of_reads moves.tabular rfl reads)
  | reading streaming reads => exact takesRows.gives_of_reads tabular streaming reads
  | ended past =>
    -- Behind the end of the output every call is answered by that end.
    have ready : session.ready = ((Except.ok () : Except Error Unit).map fun _ => none, session) := by
      rcases past with past | past <;> simp [ready, past, Except.map]
    exact .ended (.refl tabular) (rowsAhead_of_ready arrow ready)
  | cancelled off => exact .failed (.refl tabular)
  | failed before => exact .failed (.refl tabular)

end TakesRows

/-- What a reply hands out: a row as an event, the rows of a batch, or nothing. -/
inductive HandsOut : Reply → List NamedRow → Prop where
  /-- An event is one row. -/
  | record {record : Record} {row : NamedRow} (rendered : row.event = .ok record) :
    HandsOut (.record (.ok (some record))) [row]
  /-- A batch is its rows. -/
  | batch (batch : NamedBatch) : HandsOut (.batch (.ok (some batch))) batch.namedRows
  /-- An end or a failure is no rows. -/
  | bare {reply : Reply} (bare : reply.bringsData = false) : HandsOut reply []

/-- A reply with a batch hands out its rows. -/
theorem HandsOut.eq_of_batch {batch : NamedBatch} {part : List NamedRow}
    (hands : HandsOut (.batch (.ok (some batch))) part) : part = batch.namedRows := by
  cases hands with
  | batch => rfl
  | bare bare => cases bare

/-- Whether a reply is that the export has ended. -/
def Reply.IsEnd : Reply → Prop
  | .record (.ok none) | .batch (.ok none) => True
  | _ => False

/-- The call on an export that is one on its reader. -/
def Call.ofReader : Decoder.Call → Call
  | .record => .record
  | .batch => .batch

/-- What comes of a call, by the rows that its reply hands out. -/
inductive Turns (before : Session) : Outcome → Prop where
  /-- No reply comes. -/
  | stuck {after : Session} (moves : Moves before after [] []) : Turns before ⟨none, after⟩
  /-- A reply comes; behind an end no rows are ahead. -/
  | replied {reply : Reply} {after : Session} {part lost : List NamedRow}
    (hands : HandsOut reply part) (moves : Moves before after part lost)
    (last : reply.IsEnd → after.rowsAhead = []) : Turns before ⟨some reply, after⟩

/-- A call hands out the first of the rows ahead. -/
theorem make_turns {session : Session} (tabular : session.IsTabular) (call : Decoder.Call) :
    Turns session (session.make (Call.ofReader call)) := by
  cases call with
  | record =>
    have gives : Gives HandsEvent session (session.attemptRecord none) :=
      nextRecord_takesRows.gives tabular
    rw [Call.ofReader, make]
    generalize session.attemptRecord none = attempt at gives
    -- Only an attempt that comes to the end replies with it, and then no rows are ahead.
    cases gives with
    | late moves => exact .stuck moves
    | item hands moves =>
      obtain ⟨row, rfl, rendered⟩ := hands
      exact .replied (.record rendered) moves fun absurd => absurd.elim
    | ended moves bare => exact .replied (.bare rfl) moves fun _ => bare
    | failed moves => exact .replied (.bare rfl) moves fun absurd => absurd.elim
  -- Batches are handed out whole, so the rows are those of the batch.
  | batch =>
    have gives : Gives HandsBatch session (session.attemptBatch none) :=
      attemptBatch_eq tabular.encoding none ▸ nextBatch_takesRows.gives tabular
    rw [Call.ofReader, make]
    generalize session.attemptBatch none = attempt at gives
    cases gives with
    | late moves => exact .stuck moves
    | @item batch part after hands moves =>
      obtain rfl : part = batch.namedRows := hands
      exact .replied (.batch batch) moves fun absurd => absurd.elim
    | ended moves bare => exact .replied (.bare rfl) moves fun _ => bare
    | failed moves => exact .replied (.bare rfl) moves fun absurd => absurd.elim

/-- Calls hand out the first of the rows ahead, one after another. -/
theorem run_moves {session : Session} (tabular : session.IsTabular) (calls : List Decoder.Call) :
    ∃ parts lost, List.Forall₂ HandsOut (session.run (calls.map Call.ofReader)).1 parts ∧
      Moves session (session.run (calls.map Call.ofReader)).2 parts.flatten lost ∧
      ∀ reply ∈ (session.run (calls.map Call.ofReader)).1, reply.IsEnd →
        (session.run (calls.map Call.ofReader)).2.rowsAhead = [] := by
  -- The induction is on the calls; each goes on from the rows that those before have left.
  induction calls generalizing session with
  | nil => exact ⟨[], [], .nil, .refl tabular, fun _ absurd => nomatch absurd⟩
  | cons call rest ih =>
    have turns := make_turns tabular call
    rw [List.map_cons, run]
    generalize session.make (Call.ofReader call) = outcome at turns
    cases turns with
    -- Behind a call that never comes back no other is made.
    | stuck moves => exact ⟨[], [], .nil, moves, fun _ absurd => nomatch absurd⟩
    | @replied reply after part lost hands moves last =>
      obtain ⟨parts, gone, others, behind, ends⟩ := ih moves.tabular
      have kept : Call.ofReader call ≠ .drop := by cases call <;> exact (nomatch ·)
      simp only [if_neg kept]
      refine ⟨part :: parts, gone ++ lost, .cons hands others, moves.trans behind,
        fun other member isEnd => ?_⟩
      rcases List.mem_cons.mp member with rfl | member
      · -- Behind an end nothing is ahead, so nothing is ahead of what comes later.
        have none := behind.ahead
        rw [last isEnd] at none
        simp only [List.nil_eq, List.append_eq_nil_iff] at none
        exact none.1.2
      · exact ends other member isEnd

end

/-- An export of an engine that writes batches of so many rows that three of them are more than the
counter can tell. -/
def countless : Session where
  engine := { output := [.data Arrow.Stream.countless.written] }
  invocation := ⟨"tenzir-ctl", ["--endpoint=h:1", "export", "arrow"]⟩
  request := { encoding := .arrow }
  grace := 3000

/-- Three batches are handed out. -/
theorem countless_repeats [Platform] : ∃ rest, Repeats nextBatch countless
    (List.replicate 3 (.ok (some Arrow.Stream.countlessBatch))) rest := by
  have holds := Source.holds_data ([Arrow.Stream.countless].flatMap Arrow.Stream.written)
  rw [List.flatMap_singleton] at holds
  exact repeats_of_heard Arrow.Stream.heardAll_countless rfl rfl rfl
    (List.flatMap_singleton _ _ ▸ holds)

end EngineClient.Session
