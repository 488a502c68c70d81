import EngineClient.Arrow.DataType

/-! The cells of columns as values. -/

namespace EngineClient.Arrow

/-- A cell; what is stored in a missing one is kept, but means nothing. -/
structure SlotOf (ν : Type) where
  /-- Whether the cell is there. -/
  valid : Bool
  /-- What is stored. -/
  value : ν
deriving Repr

/-- What is stored in a cell. -/
inductive Value where
  /-- Nothing, in a column without values. -/
  | nothing
  /-- A truth value. -/
  | bool (value : Bool)
  /-- A whole number: also one that counts days, units of time or last decimal places. -/
  | int (value : Int)
  /-- The bit pattern of a floating-point number. -/
  | float (bits : Nat)
  /-- A byte string. -/
  | bytes (bytes : Bytes)
  /-- A text. -/
  | text (text : String)
  /-- A span of days and milliseconds. -/
  | dayTime (days milliseconds : Int)
  /-- A span of months, days and nanoseconds. -/
  | monthDayNano (months days nanoseconds : Int)
  /-- The cells of a list. -/
  | list (items : List (SlotOf Value))
  /-- One cell of each column side by side. -/
  | struct (members : List (SlotOf Value))
  /-- A cell of the member at a place. -/
  | choice (member : Nat) (slot : SlotOf Value)
  /-- A cell that is stored once for several. -/
  | shared (slot : SlotOf Value)
deriving Repr, Inhabited

/-- A cell. -/
abbrev Slot := SlotOf Value

/-- The cells of a field, in order. -/
abbrev Column := List Slot

mutual

/-- Whether a stored value stands for a missing one. -/
def Value.isNull : Value → Bool
  | .nothing => true
  | .choice _ slot => slotIsNull slot
  | .shared slot => slotIsNull slot
  | _ => false

/-- Whether a cell is missing, by itself or because the one that it leads to is. -/
def slotIsNull : SlotOf Value → Bool
  | ⟨valid, value⟩ => !valid || value.isNull

end

/-- The cells at each of a number of places of some columns. -/
def rowsOf : Nat → List Column → List (List Slot)
  | 0, _ => []
  | count + 1, columns => columns.filterMap List.head? :: rowsOf count (columns.map List.tail)

/-- Rows of cells; without columns they have no cells, and are only counted. -/
inductive Rows where
  /-- A number of rows without cells. -/
  | bare (count : Nat)
  /-- Rows with one cell for each column. -/
  | filled (rows : List (List Slot))
deriving Repr

namespace Rows

/-- The rows, one after another. -/
def toList : Rows → List (List Slot)
  | bare count => List.replicate count []
  | filled rows => rows

/-- How many rows there are. -/
def length : Rows → Nat
  | bare count => count
  | filled rows => rows.length

/-- The first rows. -/
def take (wanted : Nat) : Rows → Rows
  | bare count => bare (min wanted count)
  | filled rows => filled (rows.take wanted)

/-- The first row and those behind it, if there is one. -/
def next? : Rows → Option (List Slot × Rows)
  | bare 0 | filled [] => none
  | bare (count + 1) => some ([], bare count)
  | filled (row :: rows) => some (row, filled rows)

/-- The rows that columns of some length make. -/
def ofColumns (count : Nat) (columns : List Column) : Rows :=
  if columns.isEmpty then bare count else filled (rowsOf count columns)

/-- The rows are as many as they are counted. -/
@[simp] theorem length_toList (rows : Rows) : rows.toList.length = rows.length := by
  cases rows <;> simp [toList, length]

/-- The first rows are the first ones of the list. -/
@[simp] theorem toList_take (wanted : Nat) (rows : Rows) :
    (rows.take wanted).toList = rows.toList.take wanted := by
  cases rows <;> simp [toList, take]

/-- The first rows are as many as are wanted, or all that there are. -/
@[simp] theorem length_take (wanted : Nat) (rows : Rows) :
    (rows.take wanted).length = min wanted rows.length := by
  cases rows <;> simp [length, take]

/-- Where no more rows are there than are wanted, the first rows are all of them. -/
theorem take_of_length_le {wanted : Nat} {rows : Rows} (few : rows.length ≤ wanted) :
    rows.take wanted = rows := by
  cases rows with
  | bare count => exact congrArg bare (Nat.min_eq_right few)
  | filled rows => exact congrArg filled (List.take_of_length_le few)

/-- There is no first row exactly if there is none at all. -/
theorem next?_eq_none {rows : Rows} : rows.next? = none ↔ rows.toList = [] := by
  cases rows with
  | bare count => cases count <;> simp [next?, toList, List.replicate_succ]
  | filled rows => cases rows <;> simp [next?, toList]

/-- A first row stands before those behind it. -/
theorem toList_of_next? {rows rest : Rows} {row : List Slot}
    (split : rows.next? = some (row, rest)) : rows.toList = row :: rest.toList := by
  -- Rows without cells are counted, and all others are kept.
  cases rows with
  | bare count =>
    cases count with
    | zero => cases split
    | succ count => cases split; exact List.replicate_succ
  | filled rows =>
    cases rows with
    | nil => cases split
    | cons row rows => cases split; rfl

/-- Columns make the rows that stand in them, also where there are no columns. -/
@[simp] theorem toList_ofColumns (count : Nat) (columns : List Column) :
    (ofColumns count columns).toList = rowsOf count columns := by
  cases columns with
  | nil =>
    -- The induction is on the number of rows, each of which is empty.
    show List.replicate count [] = rowsOf count []
    induction count with
    | zero => rfl
    | succ count ih => rw [List.replicate_succ, ih]; rfl
  | cons column columns => rfl

/-- They make as many rows as are asked for. -/
@[simp] theorem length_ofColumns (count : Nat) (columns : List Column) :
    (ofColumns count columns).length = count := by
  have length (count : Nat) (columns : List Column) : (rowsOf count columns).length = count := by
    -- The induction is on the rows.
    induction count generalizing columns with
    | zero => rfl
    | succ count ih => rw [rowsOf, List.length_cons, ih]
  rw [← length_toList, toList_ofColumns, length]

end Rows

/-- Rows of cells under a schema. -/
structure Batch where
  /-- What the columns are. -/
  schema : Schema
  /-- The rows, with one cell for each column. -/
  table : Rows
deriving Repr

/-- The rows of a batch, one after another. -/
def Batch.rows (batch : Batch) : List (List Slot) :=
  batch.table.toList

end EngineClient.Arrow
