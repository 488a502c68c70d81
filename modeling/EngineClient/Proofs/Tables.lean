import EngineClient.Proofs.Arrow.Rows
import EngineClient.Proofs.Keyed
import EngineClient.Tables

/-! Tables hold the rows of the batches that were added, by name and in order. -/

namespace EngineClient

namespace Tables

open Arrow (NamedBatch NamedRow)

/-- The rows of batches, in order. -/
def rowsIn (batches : List NamedBatch) : List NamedRow :=
  batches.flatMap NamedBatch.namedRows

/-- Without batches there are no rows. -/
@[simp] theorem rowsIn_nil : rowsIn [] = [] :=
  rfl

/-- The rows of the first batch come first. -/
@[simp] theorem rowsIn_cons (batch : NamedBatch) (batches : List NamedBatch) :
    rowsIn (batch :: batches) = batch.namedRows ++ rowsIn batches :=
  rfl

/-- The rows of batches come before those of the batches behind them. -/
@[simp] theorem rowsIn_append (one other : List NamedBatch) :
    rowsIn (one ++ other) = rowsIn one ++ rowsIn other :=
  List.flatMap_append

/-- Counting the members of some items one after another counts all of them, as far as the counter
goes. -/
theorem foldl_add_length {α β : Type} (members : α → List β) (items : List α) (start : UInt64) :
    items.foldl (fun count item => count + UInt64.ofNat (members item).length) start
      = start + UInt64.ofNat (items.flatMap members).length := by
  -- The induction is on the items; the counter may wrap, which does not matter to its sum.
  induction items generalizing start with
  | nil => simp
  | cons item items ih =>
    rw [List.foldl_cons, ih, List.flatMap_cons, List.length_append, UInt64.ofNat_add,
      UInt64.add_assoc]

/-- Counting the rows of batches counts their rows. -/
theorem countRows_eq (batches : List NamedBatch) :
    countRows batches = UInt64.ofNat (rowsIn batches).length := by
  have each := foldl_add_length NamedBatch.namedRows batches 0
  simp only [NamedBatch.length_namedRows, UInt64.zero_add] at each
  exact each

/-- All rows, one name after another. -/
def allRows (tables : Tables) : List NamedRow :=
  tables.entries.flatMap fun entry => rowsIn entry.2

/-- The rows under all names are those under each of them. -/
theorem totalRows_eq (tables : Tables) :
    tables.totalRows = UInt64.ofNat tables.allRows.length := by
  -- One count is of the rows under each name, and within it one of the rows of each batch.
  have each := foldl_add_length (fun entry : String × List NamedBatch => rowsIn entry.2)
    tables.entries 0
  rw [UInt64.zero_add] at each
  rw [totalRows, allRows, ← each]
  simp only [countRows_eq]

/-- The rows under a name, in order. -/
def rowsUnder (tables : Tables) (name : String) : List NamedRow :=
  rowsIn ((tables.batches? name).getD [])

/-- Tables with some rows: under each name they have those of its name, in the order in which they
are given. -/
structure Holds (tables : Tables) (rows : List NamedRow) : Prop where
  ascends : tables.entries.Ascends
  under : ∀ name, tables.rowsUnder name = rows.filter fun row => row.name = name
  total : tables.allRows.length = rows.length

/-- There are no rows at first. -/
theorem holds_empty : Holds {} [] :=
  ⟨.nil, fun _ => rfl, rfl⟩

/-- The rows of a batch are of its name. -/
theorem filter_namedRows (batch : NamedBatch) (name : String) :
    (batch.namedRows.filter fun row => row.name = name)
      = if name = batch.name then batch.namedRows else [] := by
  -- All rows of a batch have its name, so all of them stay or none.
  have named : ∀ row ∈ batch.namedRows, row.name = batch.name := by
    intro row member
    obtain ⟨cells, _, rfl⟩ := List.mem_map.mp member
    rfl
  split
  · rename_i same
    exact List.filter_eq_self.mpr fun row member => decide_eq_true ((named row member).trans same.symm)
  · rename_i other
    refine List.filter_eq_nil_iff.mpr fun row member same => other ?_
    exact (of_decide_eq_true same).symm.trans (named row member)

/-- Tables to which a batch is added hold its rows behind all others. -/
theorem Holds.push {tables : Tables} {rows : List NamedRow} (holds : tables.Holds rows)
    (batch : NamedBatch) : (tables.push batch).Holds (rows ++ batch.namedRows) where
  ascends := holds.ascends.update _ _
  under := by
    intro name
    have before := holds.under name
    rw [rowsUnder, batches?] at before
    rw [List.filter_append, filter_namedRows, ← before, rowsUnder, batches?, Tables.push,
      holds.ascends.get?_update]
    -- Only the rows under the name of the batch become more.
    split
    · rename_i same
      rw [same, Option.getD_some, rowsIn_append, rowsIn_cons, rowsIn_nil, List.append_nil]
    · rw [List.append_nil]
  total := by
    -- Whatever the name had before, it has the rows of the batch more.
    have adds (held : Option (List NamedBatch)) : (rowsIn (held.getD [] ++ [batch])).length
        = ((held.map rowsIn).getD []).length + batch.namedRows.length := by
      cases held <;> simp
    rw [List.length_append, ← holds.total, allRows, allRows]
    exact Keyed.length_flatMap_update rowsIn adds batch.name tables.entries

/-- Tables count as many rows as they hold, as far as the counter goes. -/
theorem Holds.totalRows_eq {tables : Tables} {rows : List NamedRow} (holds : tables.Holds rows) :
    tables.totalRows = UInt64.ofNat rows.length := by
  rw [Tables.totalRows_eq, holds.total]

/-- Batches added one after another. -/
def pushAll (tables : Tables) (batches : List NamedBatch) : Tables :=
  batches.foldl push tables

/-- Tables to which batches are added hold their rows behind all others. -/
theorem Holds.pushAll {tables : Tables} {rows : List NamedRow} (holds : tables.Holds rows)
    (batches : List NamedBatch) : (tables.pushAll batches).Holds (rows ++ rowsIn batches) := by
  -- What is held at the start is generalised, since every batch adds to it.
  induction batches generalizing tables rows with
  | nil =>
    rw [rowsIn_nil, List.append_nil]
    exact holds
  | cons batch batches ih =>
    rw [rowsIn_cons, ← List.append_assoc]
    exact ih (holds.push batch)

/-- The batches that hold the first rows, the last of them without its rows beyond. -/
def firstRows : Nat → List NamedBatch → List NamedBatch
  | 0, _ => []
  | _ + 1, [] => []
  | most + 1, batch :: batches =>
    { batch with table := batch.table.take (most + 1) }
      :: firstRows (most + 1 - batch.table.length) batches

/-- The rows of a batch that is cut are the first ones of the batch. -/
theorem namedRows_take (batch : NamedBatch) (most : Nat) :
    NamedBatch.namedRows { batch with table := batch.table.take most }
      = batch.namedRows.take most := by
  simp only [NamedBatch.namedRows, NamedBatch.rows, Arrow.Rows.toList_take, List.map_take]

/-- The first rows are the first ones of all rows. -/
theorem rowsIn_firstRows (most : Nat) (batches : List NamedBatch) :
    rowsIn (firstRows most batches) = (rowsIn batches).take most := by
  -- Of each batch the first rows are taken, and what is still wanted behind it.
  fun_induction firstRows most batches with
  | case1 => rw [List.take_zero, rowsIn_nil]
  | case2 => rw [rowsIn_nil, List.take_nil]
  | case3 most batch batches ih =>
    rw [rowsIn_cons, rowsIn_cons, ih, namedRows_take, List.take_append,
      NamedBatch.length_namedRows]

end Tables

end EngineClient
