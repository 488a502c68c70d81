import EngineClient.Arrow.Batches
import EngineClient.Proofs.Answers
import EngineClient.Proofs.Arrow.Cell
import EngineClient.Proofs.Arrow.Frame

/-! Batches and events of Arrow output are the same however the output arrives, and they come unless
it hangs. -/

namespace EngineClient.Arrow

/-- A likeness of sources of which the next unit is read alike, with sources left that are alike. -/
def Frame.ReadsAlike [Platform] (Same : Source → Source → Prop) : Prop :=
  ∀ one other, Same one other → SameAnswer Same (Frame.read one) (Frame.read other)

/-- Of sources that hold the same bytes, the next unit is read alike. -/
theorem Frame.readsAlike_bytes [Platform] :
    ReadsAlike fun one other => ∃ bytes, one.Holds bytes ∧ other.Holds bytes := by
  intro one other ⟨bytes, oneHolds, otherHolds⟩
  -- Both readings come to the same and leave the same bytes.
  obtain ⟨result, rest, yields⟩ := composes_determined.read bytes
  obtain ⟨left, oneRan, leftHolds⟩ := yields one oneHolds
  obtain ⟨right, otherRan, rightHolds⟩ := yields other otherHolds
  exact ⟨result, left, right, oneRan, otherRan, rest, leftHolds, rightHolds⟩

namespace Batches

/-- Two readers with the same bytes before them, which have taken in the same. -/
structure Alike (one other : Batches) : Prop where
  /-- The bytes that both have before them. -/
  bytes : ∃ bytes, one.source.Holds bytes ∧ other.source.Holds bytes
  /-- The stream that both are reading. -/
  assembly : one.assembly = other.assembly
  /-- The rows that both have left of the last batch. -/
  held : one.held = other.held

/-- Two readers with sources before them that are alike in some way, which have taken in the same. -/
structure Agree (Same : Source → Source → Prop) (one other : Batches) : Prop where
  /-- The sources of both. -/
  source : Same one.source other.source
  /-- The stream that both are reading. -/
  assembly : one.assembly = other.assembly
  /-- The rows that both have left of the last batch. -/
  held : one.held = other.held

/-- Readers that are alike agree on the bytes before them, and that is all of it. -/
theorem agree_bytes_iff {one other : Batches} :
    Agree (fun one other => ∃ bytes, one.Holds bytes ∧ other.Holds bytes) one other
      ↔ Alike one other :=
  ⟨fun agree => ⟨agree.source, agree.assembly, agree.held⟩,
    fun alike => ⟨alike.bytes, alike.assembly, alike.held⟩⟩

variable [Platform]

/-- Reading the next batch does what becomes of the next unit. -/
theorem fetch_eq (batches : Batches) :
    batches.fetch = match Frame.read batches.source with
      | none => none
      | some (.error error, source) => some (.error error, { batches with source })
      | some (.ok none, source) => some (.ok none, { batches with source })
      | some (.ok (some .endOfStream), source) => fetch { batches with source, assembly := {} }
      | some (.ok (some (.message frame)), source) =>
        match batches.assembly.feed frame with
        | (.more, assembly) => fetch { batches with source, assembly }
        | (.broken, assembly) =>
          some (.error (undecodable assembly frame), { batches with source, assembly })
        | (.batch batch, assembly) =>
          match NamedBatch.ofBatch? batch with
          | some named => some (.ok (some named), { batches with source, assembly })
          | none => some (.error (unnamed frame), { batches with source, assembly }) := by
  rw [fetch]
  -- Both sides go on alike, and only the definition keeps what was read, for its termination.
  split <;> rename_i ran <;> exact ran ▸ rfl

/-- A reader that holds no rows reads the next batch by fetching it. -/
theorem nextBatch_eq {reader : Batches} (held : reader.held = none) :
    reader.nextBatch = reader.fetch := by
  rw [nextBatch, held]

/-- Reading the next row does what becomes of the next batch. -/
theorem fetchRow_eq (batches : Batches) :
    batches.fetchRow = match batches.fetch with
      | none => none
      | some (.error error, rest) => some (.error error, rest)
      | some (.ok none, rest) => some (.ok none, rest)
      | some (.ok (some fetched), rest) =>
        match fetched.table.next? with
        | none => fetchRow { rest with held := none }
        | some (row, table) => rest.nextHeld fetched row table := by
  rw [fetchRow]
  split <;> rename_i ran <;> exact ran ▸ rfl

section

variable {Same : Source → Source → Prop} (reads : Frame.ReadsAlike Same) {one other : Batches}

/-- Readers that agree read the same row of a batch that both hold. -/
theorem nextHeld_agree (agree : Agree Same one other) (held : NamedBatch) (row : List Slot)
    (table : Rows) :
    SameAnswer (Agree Same) (one.nextHeld held row table) (other.nextHeld held row table) := by
  -- No byte is read for a row at hand.
  simp only [nextHeld]
  split
  · exact .intro ⟨agree.source, agree.assembly, rfl⟩
  · exact .intro ⟨agree.source, agree.assembly, rfl⟩

include reads

/-- Readers that agree fetch the same batch. -/
theorem fetch_agree (agree : Agree Same one other) :
    SameAnswer (Agree Same) one.fetch other.fetch := by
  -- The induction is on the bytes that are left, of which a unit takes at least one.
  induction sized : one.source.size using Nat.strongRecOn generalizing one other with
  | ind size ih =>
    obtain ⟨same, assembly, held⟩ := agree
    obtain ⟨result, left, right, oneRan, otherRan, both⟩ := reads _ _ same
    rw [fetch_eq one, fetch_eq other, oneRan, otherRan, ← assembly]
    match result, oneRan with
    | .error error, _ => exact .intro ⟨both, rfl, held⟩
    | .ok none, _ => exact .intro ⟨both, rfl, held⟩
    -- A unit that brings no batch is passed, and both go on with fewer bytes.
    | .ok (some .endOfStream), oneRan =>
      exact ih left.size (sized ▸ Frame.read_size oneRan) ⟨both, rfl, held⟩ rfl
    | .ok (some (.message frame)), oneRan =>
      dsimp only
      split
      · exact ih left.size (sized ▸ Frame.read_size oneRan) ⟨both, rfl, held⟩ rfl
      · exact .intro ⟨both, rfl, held⟩
      · split
        · exact .intro ⟨both, rfl, held⟩
        · exact .intro ⟨both, rfl, held⟩

/-- Readers that agree read the same batch. -/
theorem nextBatch_agree (agree : Agree Same one other) :
    SameAnswer (Agree Same) one.nextBatch other.nextBatch := by
  -- Rows that are left of a batch were begun as events, and both hold the same ones.
  have released : Agree Same { one with held := none } { other with held := none } :=
    ⟨agree.source, agree.assembly, rfl⟩
  simp only [nextBatch, ← agree.held]
  split
  · split
    · exact fetch_agree reads released
    · exact .intro released
  · exact fetch_agree reads agree

/-- Readers that agree fetch the same row. -/
theorem fetchRow_agree (agree : Agree Same one other) :
    SameAnswer (Agree Same) one.fetchRow other.fetchRow := by
  -- The induction is on the bytes that are left, of which a batch takes at least one.
  induction sized : one.source.size using Nat.strongRecOn generalizing one other with
  | ind size ih =>
    obtain ⟨answer, left, right, oneRan, otherRan, same⟩ := fetch_agree reads agree
    rw [fetchRow_eq one, fetchRow_eq other, oneRan, otherRan]
    match answer, oneRan with
    | .error error, _ => exact .intro same
    | .ok none, _ => exact .intro same
    | .ok (some fetched), oneRan =>
      dsimp only
      split
      -- A batch without rows is passed over.
      · have shorter : left.source.size < size := sized ▸ fetch_size one oneRan
        exact ih left.source.size shorter ⟨same.source, same.assembly, rfl⟩ rfl
      · exact nextHeld_agree same fetched _ _

/-- Readers that agree read the same event. -/
theorem nextRecord_agree (agree : Agree Same one other) :
    SameAnswer (Agree Same) one.nextRecord other.nextRecord := by
  simp only [nextRecord, ← agree.held]
  -- Held rows come first, and a batch without any is let go of.
  split
  · split
    · exact fetchRow_agree reads ⟨agree.source, agree.assembly, rfl⟩
    · exact nextHeld_agree agree _ _ _
  · exact fetchRow_agree reads agree

end

section

variable {one other : Batches}

/-- Readers that are alike read the same batch. -/
theorem nextBatch_alike (alike : Alike one other) :
    SameAnswer Alike one.nextBatch other.nextBatch :=
  (nextBatch_agree Frame.readsAlike_bytes (agree_bytes_iff.mpr alike)).mono fun _ _ =>
    agree_bytes_iff.mp

/-- Readers that are alike read the same event. -/
theorem nextRecord_alike (alike : Alike one other) :
    SameAnswer Alike one.nextRecord other.nextRecord :=
  (nextRecord_agree Frame.readsAlike_bytes (agree_bytes_iff.mpr alike)).mono fun _ _ =>
    agree_bytes_iff.mp

end

/-- A reader whose output never comes to hang. -/
def IsLive (batches : Batches) : Prop :=
  batches.source.IsLive

/-- Reading the next batch comes to an answer where nothing hangs. -/
theorem fetch_answered {batches : Batches} (live : batches.IsLive) :
    Answered IsLive Error.IsOfOutput batches.fetch := by
  -- The induction is on the units that are passed on the way to the batch.
  have answered := Frame.composes_answers.read batches.source live
  fun_induction fetch batches with
  | case1 batches stuck =>
    rw [stuck] at answered
    cases answered
  | case2 batches error source read =>
    rw [read] at answered
    cases answered with
    | error allowed kept => exact .error allowed kept
  | case3 batches source read =>
    rw [read] at answered
    exact .ok answered.kept
  -- The end of a stream and a message that brings no batch are passed.
  | case4 batches source read ih =>
    rw [read] at answered
    exact ih answered.kept (Frame.composes_answers.read source answered.kept)
  | case5 batches frame source read assembly fed ih =>
    rw [read] at answered
    exact ih answered.kept (Frame.composes_answers.read source answered.kept)
  -- A message that is broken or brings a batch without a name is a failure of the output.
  | case6 batches frame source read assembly fed =>
    rw [read] at answered
    exact .error ⟨.inr rfl, rfl⟩ answered.kept
  | case7 batches frame source read batch assembly fed named found =>
    rw [read] at answered
    exact .ok answered.kept
  | case8 batches frame source read batch assembly fed absent =>
    rw [read] at answered
    exact .error ⟨.inr rfl, rfl⟩ answered.kept

/-- Reading a row at hand comes to an answer. -/
theorem nextHeld_answered {batches : Batches} (live : batches.IsLive) (held : NamedBatch)
    (row : List Slot) (table : Rows) :
    Answered IsLive Error.IsOfOutput (batches.nextHeld held row table) := by
  -- Nothing is read any more, so the only failure is a cell that cannot be rendered.
  have renders : Renders (held.event row) := renders_map _ (rowJson_renders held.schema row)
  unfold nextHeld
  split
  · exact .ok live
  · rename_i error failed
    exact .error (renders error failed) live

/-- Reading the next row comes to an answer where nothing hangs. -/
theorem fetchRow_answered {batches : Batches} (live : batches.IsLive) :
    Answered IsLive Error.IsOfOutput batches.fetchRow := by
  -- The induction is on the batches without rows on the way.
  have answered := fetch_answered live
  fun_induction fetchRow batches with
  | case1 batches stuck =>
    rw [stuck] at answered
    cases answered
  | case2 batches error rest fetched =>
    rw [fetched] at answered
    cases answered with
    | error allowed kept => exact .error allowed kept
  | case3 batches rest fetched =>
    rw [fetched] at answered
    exact .ok answered.kept
  | case4 batches fetched rest ran empty ih =>
    rw [ran] at answered
    -- A batch without rows is let go of, which leaves the output as it is.
    have live : IsLive { rest with held := none } := answered.kept
    exact ih live (fetch_answered live)
  | case5 batches fetched rest ran row table held =>
    rw [ran] at answered
    exact nextHeld_answered answered.kept _ _ _

/-- Reading the next event comes to an answer where nothing hangs. -/
theorem nextRecord_answered {batches : Batches} (live : batches.IsLive) :
    Answered IsLive Error.IsOfOutput batches.nextRecord := by
  -- A row that is left of a batch is at hand; otherwise one has to be fetched.
  unfold nextRecord
  split
  · split
    · exact fetchRow_answered live
    · exact nextHeld_answered live _ _ _
  · exact fetchRow_answered live

end Batches

end EngineClient.Arrow
