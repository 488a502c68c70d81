import EngineClient.Arrow.Assembly
import EngineClient.Arrow.Cell
import EngineClient.Arrow.Frame
import EngineClient.Record

/-! Output with Arrow streams one after another, read as batches or as single events. -/

namespace EngineClient.Arrow

/-- The keys of the notes that name a schema, the newest first. -/
def nameKeys : List String := ["TENZIR:name:0", "VAST:name:0"]

/-- The name of a schema; an empty one is none. -/
def Schema.name? (schema : Schema) : Option String :=
  (nameKeys.findSome? fun key => schema.notes.get? key).filter fun name => !name.isEmpty

/-- Rows under a named schema. -/
structure NamedBatch where
  /-- The name of the schema. -/
  name : String
  /-- The schema. -/
  schema : Schema
  /-- The rows. -/
  table : Rows

namespace NamedBatch

/-- The batch under the name that its schema carries. -/
def ofBatch? (batch : Batch) : Option NamedBatch :=
  batch.schema.name?.map fun name => ⟨name, batch.schema, batch.table⟩

/-- The rows, one after another. -/
def rows (batch : NamedBatch) : List (List Slot) :=
  batch.table.toList

/-- How many rows there are, as counters take it. -/
def numRows (batch : NamedBatch) : UInt64 :=
  UInt64.ofNat batch.table.length

variable [Platform]

/-- The event of a row. -/
def event (batch : NamedBatch) (row : List Slot) : Except Error Record :=
  (rowJson batch.schema row).map fun data => ⟨some batch.name, data⟩

/-- The events of the rows, or the failures to render them. -/
def events (batch : NamedBatch) : List (Except Error Record) :=
  batch.rows.map batch.event

end NamedBatch

/-- A reader of batches. -/
structure Batches where
  /-- The output still to be read. -/
  source : Source
  /-- The stream that is being read. -/
  assembly : Assembly := {}
  /-- The rows of the last batch that were not read one by one yet. -/
  held : Option NamedBatch := none

namespace Batches

variable [Platform]

/-- What a reader answers: something, the end of the output or a failure, unless it never does. -/
abbrev Answer (α : Type) := Option (Except Error (Option α) × Batches)

/-- A message that does not belong where it stands, in a stream that has come so far. -/
def undecodable (assembly : Assembly) (frame : Bytes) : Error :=
  { Error.ofRaw "undecodable arrow ipc message" frame with
    causes := Platform.streamFaults assembly frame }

/-- A batch whose schema has no name. -/
def unnamed (frame : Bytes) : Error :=
  { Error.ofRaw "arrow batch carries no schema name" frame with
    hint := some "Expected TENZIR:name:0 in the schema metadata." }

/-- Reads the next batch of the output, past all messages before it. -/
def fetch (batches : Batches) : Answer NamedBatch :=
  match _ran : Frame.read batches.source with
  | none => none
  | some (.error error, source) => some (.error error, { batches with source })
  | some (.ok none, source) => some (.ok none, { batches with source })
  | some (.ok (some .endOfStream), source) =>
    -- What was not taken in by now is dropped with the stream.
    fetch { batches with source, assembly := {} }
  | some (.ok (some (.message frame)), source) =>
    match batches.assembly.feed frame with
    | (.more, assembly) => fetch { batches with source, assembly }
    | (.broken, assembly) =>
      some (.error (undecodable assembly frame), { batches with source, assembly })
    | (.batch batch, assembly) =>
      match NamedBatch.ofBatch? batch with
      | some named => some (.ok (some named), { batches with source, assembly })
      | none => some (.error (unnamed frame), { batches with source, assembly })
termination_by batches.source.size
-- Every unit takes at least a byte.
decreasing_by all_goals exact Frame.read_size _ran

/-- Reads the next batch, or what is left of the last one when some of its rows were read. -/
def nextBatch (batches : Batches) : Answer NamedBatch :=
  match batches.held with
  | some held =>
    let released := { batches with held := none }
    -- A batch all of whose rows were read is not handed out again.
    if held.table.next?.isNone then released.fetch else some (.ok (some held), released)
  | none => batches.fetch

/-- A batch that was fetched leaves fewer bytes to be read. -/
theorem fetch_size (batches : Batches) {batch : NamedBatch} {rest : Batches}
    (ran : batches.fetch = some (.ok (some batch), rest)) :
    rest.source.size < batches.source.size := by
  -- Every unit on the way to the batch takes at least a byte.
  fun_induction fetch batches with
  | case1 => simp at ran
  | case2 => simp at ran
  | case3 => simp at ran
  | case4 batches source read ih =>
    exact Nat.lt_trans (ih ran) (Frame.read_size read)
  | case5 batches source frame read assembly fed ih =>
    exact Nat.lt_trans (ih ran) (Frame.read_size read)
  | case6 => simp at ran
  | case7 batches frame source read batch assembly fed named found =>
    simp only [Option.some.injEq, Prod.mk.injEq] at ran
    obtain ⟨_, rfl⟩ := ran
    exact Frame.read_size read
  | case8 => simp at ran

/-- Reads the next row of a batch that has one. -/
def nextHeld (batches : Batches) (held : NamedBatch) (row : List Slot) (table : Rows) :
    Answer Record :=
  -- A row that cannot be rendered is not passed.
  some (match held.event row with
    | .ok record => (.ok (some record), { batches with held := some { held with table } })
    | .error error => (.error error, { batches with held := some held }))

/-- Reads the next row of the output, past batches without rows. -/
def fetchRow (batches : Batches) : Answer Record :=
  match _ran : batches.fetch with
  | none => none
  | some (.error error, batches) => some (.error error, batches)
  | some (.ok none, batches) => some (.ok none, batches)
  | some (.ok (some fetched), rest) =>
    match fetched.table.next? with
    | none => fetchRow { rest with held := none }
    | some (row, table) => rest.nextHeld fetched row table
termination_by batches.source.size
decreasing_by exact fetch_size batches _ran

/-- Reads the next row as an event. -/
def nextRecord (batches : Batches) : Answer Record :=
  match batches.held with
  | some held =>
    match held.table.next? with
    | none => { batches with held := none }.fetchRow
    | some (row, table) => batches.nextHeld held row table
  | none => batches.fetchRow

/-- How many rows of the last batch were not read yet. -/
def heldRows (batches : Batches) : Nat :=
  match batches.held with
  | some held => held.table.length
  | none => 0

/-- What is left to be read: bytes first, and rows of the last batch second. -/
def remaining (batches : Batches) : Nat × Nat :=
  (batches.source.size, batches.heldRows)

/-- Whether less is left to be read than was. -/
def Shorter (rest before : Nat × Nat) : Prop :=
  rest.1 < before.1 ∨ rest.1 = before.1 ∧ rest.2 < before.2

/-- A row that was read out of a batch is missing from it. -/
theorem nextHeld_remaining {batches rest : Batches} {held : NamedBatch} {row : List Slot}
    {table : Rows} {record : Record}
    (ran : batches.nextHeld held row table = some (.ok (some record), rest)) :
    rest.remaining = (batches.source.size, table.length) := by
  -- Only a row that can be rendered is an event.
  simp only [nextHeld] at ran
  split at ran
  · simp only [Option.some.injEq, Prod.mk.injEq] at ran
    obtain ⟨_, rfl⟩ := ran
    rfl
  · simp at ran

/-- A row that was fetched leaves fewer bytes to be read. -/
theorem fetchRow_size (batches : Batches) {record : Record} {rest : Batches}
    (ran : batches.fetchRow = some (.ok (some record), rest)) :
    rest.source.size < batches.source.size := by
  -- Batches without rows on the way take bytes too.
  fun_induction fetchRow batches with
  | case1 => simp at ran
  | case2 => simp at ran
  | case3 => simp at ran
  | case4 batches fetched middle fetchedRan empty ih =>
    have shrunk := fetch_size batches fetchedRan
    exact Nat.lt_trans (ih ran) shrunk
  -- Handing out the first row takes no further byte of the output.
  | case5 batches fetched middle fetchedRan row table held =>
    have same := congrArg Prod.fst (nextHeld_remaining ran)
    have shrunk := fetch_size batches fetchedRan
    simp only [remaining] at same
    omega

/-- A row that was read leaves less to be read. -/
theorem nextRecord_remaining {batches rest : Batches} {record : Record}
    (ran : batches.nextRecord = some (.ok (some record), rest)) :
    Shorter rest.remaining batches.remaining := by
  -- A held row is one row less, and a fetched one takes bytes of the output.
  simp only [nextRecord] at ran
  split at ran
  · rename_i held known
    split at ran
    · exact Or.inl (fetchRow_size { batches with held := none } ran)
    · rename_i row table split
      rw [nextHeld_remaining ran]
      refine Or.inr ⟨rfl, ?_⟩
      have one := congrArg List.length (Rows.toList_of_next? split)
      rw [List.length_cons, Rows.length_toList, Rows.length_toList] at one
      simp [remaining, heldRows, known, one]
  · exact Or.inl (fetchRow_size _ ran)

/-- A batch that was fetched is not held. -/
theorem fetch_held (batches : Batches) {answer : Except Error (Option NamedBatch)} {rest : Batches}
    (ran : batches.fetch = some (answer, rest)) : rest.held = batches.held := by
  -- Of all the steps on the way none touches the held rows.
  fun_induction fetch batches with
  | case1 => simp at ran
  | case4 batches source read ih => exact ih ran
  | case5 batches source frame read assembly fed ih => exact ih ran
  | case2 | case3 | case6 | case7 | case8 =>
    simp only [Option.some.injEq, Prod.mk.injEq] at ran
    obtain ⟨_, rfl⟩ := ran
    rfl

/-- A batch that was read leaves less to be read. -/
theorem nextBatch_remaining {batches rest : Batches} {batch : NamedBatch}
    (ran : batches.nextBatch = some (.ok (some batch), rest)) :
    Shorter rest.remaining batches.remaining := by
  -- A held batch with rows is given away as it is, and a fetched one takes bytes.
  simp only [nextBatch] at ran
  split at ran
  · rename_i held known
    split at ran
    · exact Or.inl (fetch_size { batches with held := none } ran)
    · rename_i filled
      simp only [Option.some.injEq, Prod.mk.injEq] at ran
      obtain ⟨_, rfl⟩ := ran
      refine Or.inr ⟨rfl, ?_⟩
      have some : held.table.toList ≠ [] := fun empty => by
        simp [Rows.next?_eq_none.mpr empty] at filled
      have := List.length_pos_iff.mpr some
      simpa [remaining, heldRows, known] using this
  · exact Or.inl (fetch_size batches ran)

end Batches

end EngineClient.Arrow
