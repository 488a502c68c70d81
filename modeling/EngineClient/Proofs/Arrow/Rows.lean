import EngineClient.Proofs.Arrow.Batches

/-! The rows that a reader has before it, and what events and batches take of them. -/

namespace EngineClient.Arrow

/-- A row under a named schema. -/
structure NamedRow where
  /-- The name of the schema. -/
  name : String
  /-- The schema. -/
  schema : Schema
  /-- The cells. -/
  cells : List Slot

namespace NamedBatch

/-- The rows of the batch, in order. -/
def namedRows (batch : NamedBatch) : List NamedRow :=
  batch.rows.map fun cells => ⟨batch.name, batch.schema, cells⟩

/-- A batch has as many rows under its name as it has rows. -/
@[simp] theorem length_namedRows (batch : NamedBatch) :
    batch.namedRows.length = batch.table.length := by
  rw [namedRows, List.length_map, rows, Rows.length_toList]

/-- A batch that has no first row has no rows at all. -/
theorem namedRows_of_none {batch : NamedBatch} (bare : batch.table.next? = none) :
    batch.namedRows = [] := by
  rw [namedRows, rows, Rows.next?_eq_none.mp bare, List.map_nil]

/-- The first row of a batch stands before those behind it. -/
theorem namedRows_of_next? {batch : NamedBatch} {row : List Slot} {table : Rows}
    (split : batch.table.next? = some (row, table)) :
    batch.namedRows = ⟨batch.name, batch.schema, row⟩ :: namedRows { batch with table } := by
  rw [namedRows, rows, Rows.toList_of_next? split, List.map_cons]
  rfl

end NamedBatch

section

variable [Platform]

/-- The event of the row. -/
def NamedRow.event (row : NamedRow) : Except Error Record :=
  (rowJson row.schema row.cells).map fun data => ⟨some row.name, data⟩

/-- Whether all cells of the row can be rendered, so that it can be read as an event. -/
def NamedRow.HasEvent (row : NamedRow) : Prop :=
  ∃ record, row.event = .ok record

end

namespace Batches

variable [Platform]

/-- Each batch leaves less to be read. -/
theorem nextBatch_consumes : Consumes nextBatch remaining :=
  fun _ _ _ ran => Prod.lex_def.mpr (nextBatch_remaining ran)

/-- The rows that are read as batches from now on, until no batch comes any more. -/
def ahead (batches : Batches) : List NamedRow :=
  (itemsOf nextBatch_consumes batches).flatMap NamedBatch.namedRows

/-- A batch takes its rows from those ahead. -/
theorem ahead_batch {batches rest : Batches} {batch : NamedBatch}
    (ran : batches.nextBatch = some (.ok (some batch), rest)) :
    batches.ahead = batch.namedRows ++ rest.ahead := by
  rw [ahead, itemsOf_item _ ran, List.flatMap_cons]
  rfl

/-- Where no batch comes, no rows are ahead. -/
theorem ahead_bare {batches : Batches}
    (bare : ∀ batch rest, batches.nextBatch ≠ some (.ok (some batch), rest)) :
    batches.ahead = [] := by
  rw [ahead, itemsOf_bare _ bare, List.flatMap_nil]

/-- What is ahead hangs on the next batch alone. -/
theorem ahead_of_same {one other : Batches} (same : one.nextBatch = other.nextBatch) :
    one.ahead = other.ahead := by
  rw [ahead, ahead, itemsOf_of_same _ same]

/-- A batch that is held has its rows ahead of all others, also where none is left of them. -/
theorem ahead_held (batches : Batches) (held : NamedBatch) :
    ahead { batches with held := some held }
      = held.namedRows ++ ahead { batches with held := none } := by
  cases left : held.table.next? with
  | none =>
    -- A batch all of whose rows were read is passed, as if it were not held.
    rw [NamedBatch.namedRows_of_none left, List.nil_append]
    refine ahead_of_same ?_
    simp only [nextBatch, left, Option.isNone_none, if_true]
  | some first =>
    refine ahead_batch ?_
    simp only [nextBatch, left, Option.isNone_some, Bool.false_eq_true, if_false]

/-- What an answer takes of the rows ahead, by the rows that an item hands out. -/
inductive Takes {α : Type} (Hands : α → List NamedRow → Prop) (before : List NamedRow) :
    Option (Except Error (Option α) × Batches) → Prop where
  /-- No answer comes. -/
  | stuck : Takes Hands before none
  /-- The first rows are handed out. -/
  | item {item : α} {part : List NamedRow} {rest : Batches} (hands : Hands item part)
    (first : before = part ++ rest.ahead) : Takes Hands before (some (.ok (some item), rest))
  /-- The output has ended. -/
  | ended {rest : Batches} (bare : before = []) : Takes Hands before (some (.ok none, rest))
  /-- The output cannot be read on. -/
  | broken {error : Error} {rest : Batches} (bare : before = []) :
    Takes Hands before (some (.error error, rest))
  /-- A row cannot be rendered. -/
  | unrendered {error : Error} {rest : Batches} {row : NamedRow} (member : row ∈ before)
    (absent : ¬row.HasEvent) : Takes Hands before (some (.error error, rest))

/-- An event hands out one row. -/
def HandsEvent (record : Record) (part : List NamedRow) : Prop :=
  ∃ row, part = [row] ∧ row.event = .ok record

/-- A batch hands out its rows. -/
def HandsBatch (batch : NamedBatch) (part : List NamedRow) : Prop :=
  part = batch.namedRows

/-- A batch that is read takes its rows from those ahead. -/
theorem nextBatch_takes (batches : Batches) : Takes HandsBatch batches.ahead batches.nextBatch := by
  cases ran : batches.nextBatch with
  | none => exact .stuck
  | some answered =>
    -- Without a batch there are no rows ahead.
    have bare (other : ∀ batch, answered.1 ≠ .ok (some batch)) : batches.ahead = [] :=
      ahead_bare fun batch rest found => other batch (by
        rw [ran, Option.some.injEq] at found
        rw [found])
    obtain ⟨answer, rest⟩ := answered
    -- The call fails, ends, or brings a batch whose rows were the first ahead.
    rcases answer with error | (_ | batch)
    · exact .broken (bare fun _ absurd => nomatch absurd)
    · exact .ended (bare fun _ absurd => nomatch absurd)
    · exact .item rfl (ahead_batch ran)

/-- A row at hand is read as its event, or cannot be rendered. -/
theorem nextHeld_takes (batches : Batches) (held : NamedBatch) (row : List Slot)
    (table : Rows) (behind : List NamedRow)
    (left : ahead { batches with held := none } = behind) :
    Takes HandsEvent
      (⟨held.name, held.schema, row⟩ :: (NamedBatch.namedRows { held with table } ++ behind))
      (batches.nextHeld held row table) := by
  -- The row is rendered, or the failure to do so is the answer.
  unfold nextHeld
  split
  · rename_i record rendered
    have hands : HandsEvent record [⟨held.name, held.schema, row⟩] := ⟨_, rfl, rendered⟩
    refine .item hands ?_
    -- The rows left of the batch come before those behind it.
    rw [ahead_held, left]
    rfl
  · rename_i error failed
    refine .unrendered List.mem_cons_self fun ⟨record, rendered⟩ => ?_
    cases failed.symm.trans rendered

/-- The next row is the first one ahead, also where batches without rows come before it. -/
theorem fetchRow_takes {batches : Batches} (released : batches.held = none) :
    Takes HandsEvent batches.ahead batches.fetchRow := by
  -- The induction is on the batches without rows, which add nothing to the rows ahead.
  fun_induction fetchRow batches with
  | case1 => exact .stuck
  | case2 batches error rest fetched =>
    refine .broken (ahead_bare fun batch after => ?_)
    rw [nextBatch_eq released, fetched]
    simp
  | case3 batches rest fetched =>
    refine .ended (ahead_bare fun batch after => ?_)
    rw [nextBatch_eq released, fetched]
    simp
  | case4 batches fetched rest ran empty ih =>
    have same : { rest with held := none } = rest := by
      rw [← released, ← fetch_held batches ran]
    -- The batch is passed over, and takes nothing off the rows ahead.
    rw [ahead_batch ((nextBatch_eq released).trans ran), NamedBatch.namedRows_of_none empty,
      List.nil_append, ← same]
    exact ih rfl
  -- The first row of the batch is the next one ahead.
  | case5 batches fetched rest ran row table held =>
    have same : { rest with held := none } = rest := by
      rw [← released, ← fetch_held batches ran]
    rw [ahead_batch ((nextBatch_eq released).trans ran), NamedBatch.namedRows_of_next? held]
    exact nextHeld_takes rest fetched row table rest.ahead (congrArg ahead same)

/-- The next event is the first row ahead. -/
theorem nextRecord_takes (batches : Batches) :
    Takes HandsEvent batches.ahead batches.nextRecord := by
  -- Without a held batch the next one has to be fetched.
  cases known : batches.held with
  | none =>
    simp only [nextRecord, known]
    exact fetchRow_takes known
  | some held =>
    -- The rows that are left of the batch come first, if there are any.
    have split : batches.ahead = held.namedRows ++ ahead { batches with held := none } := by
      rw [← ahead_held, ← known]
    cases left : held.table.next? with
    | none =>
      rw [split, NamedBatch.namedRows_of_none left, List.nil_append]
      simp only [nextRecord, known, left]
      exact fetchRow_takes rfl
    | some first =>
      obtain ⟨row, table⟩ := first
      rw [split, NamedBatch.namedRows_of_next? left]
      simp only [nextRecord, known, left]
      exact nextHeld_takes batches held row table _ rfl

end Batches

end EngineClient.Arrow
