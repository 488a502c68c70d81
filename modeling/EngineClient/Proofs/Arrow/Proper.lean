import EngineClient.Proofs.Arrow.Messages
import EngineClient.Proofs.Bytes
import EngineClient.Proofs.Json.RoundTrip
import Mathlib.Data.List.Forall2

/-! The documents of the rows that are read out of a stream can be written down. -/

namespace EngineClient.Bytes

/-- At most eight bytes hold a number without a sign that fits sixty-four bits. -/
theorem toNat_le_max64 {bytes : Bytes} (few : bytes.length ≤ 8) : toNat bytes ≤ Unsigned.max64 := by
  have fits := toNat_lt bytes
  have room : Nat.pow 256 bytes.length ≤ Nat.pow 256 8 := Nat.pow_le_pow_right (by decide) few
  have most : Nat.pow 256 8 = Unsigned.max64 + 1 := by decide
  omega

/-- At most eight bytes hold a number with a sign that fits sixty-four bits. -/
theorem toInt_fits {bytes : Bytes} (few : bytes.length ≤ 8) :
    -(Nat.pow 2 63 : Nat) ≤ toInt bytes ∧ toInt bytes ≤ Unsigned.max64 := by
  have positive : 0 < Nat.pow 2 (8 * bytes.length) := Nat.pow_pos (by decide)
  have room : Nat.pow 2 (8 * bytes.length) ≤ Nat.pow 2 64 :=
    Nat.pow_le_pow_right (by decide) (by omega)
  have half : Nat.pow 2 64 = 2 * Nat.pow 2 63 := rfl
  have most : Nat.pow 2 64 = Unsigned.max64 + 1 := by decide
  -- In two's complement, half of the numbers that fit are negative.
  have lower := Int.le_bmod (x := toNat bytes) positive
  have upper := Int.bmod_lt (x := toNat bytes) positive
  rw [toInt]
  omega

end EngineClient.Bytes

namespace EngineClient.Arrow

open Json (IsProper)

/-- A floating-point number can be written down; it is null where it is not finite. -/
theorem isProper_ofDouble (value : Double) : (Json.ofDouble value).IsProper := by
  unfold Json.ofDouble
  split
  · exact .double _
  · exact .null

/-- So can documents under names as one document, also where names come twice. -/
theorem isProper_ofPairs {pairs : List (String × Json)} (proper : ∀ pair ∈ pairs, pair.2.IsProper) :
    (Json.object (Keyed.ofPairs pairs)).IsProper := by
  have bare : Keyed.Ascends ([] : Json.Fields) := List.Pairwise.nil
  obtain ⟨ascends, origin⟩ := Keyed.foldl_put_ascends pairs bare
  refine .object ascends fun pair member => ?_
  -- Whatever the object has under a name is one of the documents.
  rcases origin pair member with absurd | among
  · cases absurd
  · exact proper pair among

section

variable {count : Nat}

/-- What is stored in a cell is one of the values of the column. -/
theorem value_mem_of_slots {valid : List Bool} {values : List Value} {slot : Slot}
    (member : slot ∈ slots valid values) : slot.value ∈ values := by
  unfold slots at member
  -- The induction is on the flags, each of which takes a value.
  induction valid generalizing values with
  | nil => cases member
  | cons flag valid ih => cases values with
    | nil => cases member
    | cons value values =>
      rcases List.mem_cons.mp member with rfl | later
      · exact List.mem_cons_self
      · exact List.mem_cons_of_mem _ (ih later)

/-- A stretch of a list holds nothing else. -/
theorem mem_of_stretches {α : Type} {start : Nat} {places : List Nat} {items part : List α} {item : α}
    (stretch : part ∈ stretches start places items) (member : item ∈ part) : item ∈ items := by
  -- The induction is on the places: a stretch is cut off, and the others are behind it.
  induction places generalizing start items with
  | nil => cases stretch
  | cons stop places ih =>
    rcases List.mem_cons.mp stretch with rfl | later
    · exact List.mem_of_mem_take member
    · exact List.mem_of_mem_drop (ih later)

/-- So does a stretch that is marked. -/
theorem mem_of_marked {α : Type} {places : List Nat} {items part : List α} {item : α}
    (stretch : part ∈ marked items places) (member : item ∈ part) : item ∈ items := by
  cases places with
  | nil => cases stretch
  | cons start places => exact List.mem_of_mem_drop (mem_of_stretches stretch member)

/-- Each piece is of the size that is asked for. -/
theorem length_of_pieces {size : Nat} {buffer piece : Bytes} (enough : size * count ≤ buffer.length)
    (member : piece ∈ pieces size count buffer) : piece.length = size := by
  -- The induction is on the count, and the buffer is long enough for as many pieces.
  induction count generalizing buffer with
  | zero => cases member
  | succ count ih =>
    rw [Nat.mul_succ] at enough
    rcases List.mem_cons.mp member with rfl | later
    · rw [List.length_take]
      omega
    · exact ih (by rw [List.length_drop]; omega) later

/-- A whole number takes at most eight bytes. -/
theorem IntType.bytes_le (kind : IntType) : kind.bytes ≤ 8 := by
  obtain ⟨signed, width⟩ := kind
  cases width <;> simp [IntType.bytes, IntWidth.bytes]

/-- The cells of a column are read of pieces of the size of one. -/
theorem value_of_fixedColumn {size : Nat} {read : Bytes → Value} {parts rest : Parts}
    {column : Column} (ran : fixedColumn size read parts = some (column, rest)) :
    ∀ slot ∈ column, ∃ piece : Bytes, piece.length = size ∧ slot.value = read piece := by
  intro slot member
  simp only [fixedColumn, Option.bind_eq_bind, Option.bind_eq_some_iff] at ran
  obtain ⟨⟨node, _⟩, _, ⟨bitmap, _⟩, _, ⟨buffer, _⟩, _, values, cut, valid, _, same⟩ := ran
  cases same
  simp only [pieces?, Option.ite_none_right_eq_some, Option.some.injEq] at cut
  -- The buffer was cut only because it holds all pieces.
  obtain ⟨enough, rfl⟩ := cut
  obtain ⟨piece, among, same⟩ := List.mem_map.mp (value_mem_of_slots member)
  exact ⟨piece, length_of_pieces enough among, same.symm⟩

end

variable [Platform]

/-- A stored value whose document can be written down, if it has one. -/
def ProperValue (type : DataType) (value : Value) : Prop :=
  ∀ document, valueJson type value = .ok document → document.IsProper

/-- A cell whose document can be written down, if it has one. -/
def ProperCell (field : Field) (slot : Slot) : Prop :=
  ∀ document, cellJson field slot = .ok document → document.IsProper

/-- A column of such cells. -/
def ProperColumn (field : Field) (column : Column) : Prop :=
  ∀ slot ∈ column, ProperCell field slot

/-- A row of such cells, with one for each field. -/
def ProperRow (fields : List Field) (row : List Slot) : Prop :=
  List.Forall₂ ProperCell fields row

/-- Types whose values are neither whole numbers nor rendered by others within them. -/
def DataType.IsLeaf : DataType → Prop
  | .int _ | .list _ _ | .struct _ => False
  | _ => True

section

variable {type : DataType} {value : Value} {field : Field} {fields : List Field} {slot : Slot}
  {row : List Slot}

/-- The plain text of a value can be written down. -/
theorem isProper_of_displayed {document : Json} (rendered : displayed type value = .ok document) :
    document.IsProper := by
  -- Plain text is a text, if it can be rendered at all.
  unfold displayed at rendered
  split at rendered
  · cases rendered
    exact .string _
  · cases rendered

/-- So can the value of a leaf, whatever is stored in it. -/
theorem properValue_of_isLeaf (leaf : type.IsLeaf) (value : Value) : ProperValue type value := by
  intro document rendered
  -- Lists and structs are no leaves.
  unfold valueJson at rendered
  split at rendered
  · exact leaf.elim
  · exact leaf.elim
  · revert rendered
    -- Whole numbers are the one kind of value that may not fit.
    fun_cases scalarJson
    all_goals intro rendered
    all_goals first
      | exact leaf.elim
      | exact isProper_of_displayed rendered
      | cases rendered; first
        | exact .bool _
        | exact .string _
        | exact isProper_ofDouble _

/-- So can a whole number that fits. -/
theorem properValue_int (kind : IntType) {number : Int} (least : -(Nat.pow 2 63 : Nat) ≤ number)
    (most : number ≤ Unsigned.max64) : ProperValue (.int kind) (.int number) := by
  intro document rendered
  cases rendered
  exact .int least most

/-- A cell is missing, a text of a meaning or its value. -/
theorem properCell_of_value (proper : ProperValue field.type slot.value) : ProperCell field slot := by
  obtain ⟨name, type, nullable, source, notes⟩ := field
  obtain ⟨valid, value⟩ := slot
  intro document rendered
  -- A cell is null, or a text that its meaning gives, or its value.
  simp only [cellJson] at rendered
  split at rendered
  · cases rendered
    exact .null
  · split at rendered
    · cases rendered
      exact .string _
    · exact proper document rendered

/-- The documents of items can be written down if each of them can. -/
theorem isProper_of_itemsJson {item : Field} {items : List Slot} (proper : ProperColumn item items)
    {documents : List Json} (rendered : itemsJson item items = .ok documents) :
    ∀ document ∈ documents, document.IsProper := by
  -- The induction is on the items that were rendered.
  induction itemsJson_eq_ok_iff.mp rendered with
  | nil => exact List.forall_mem_nil _
  | @cons slot document rest behind one more ih =>
    obtain ⟨first, others⟩ := List.forall_mem_cons.mp proper
    exact List.forall_mem_cons.mpr
      ⟨first document one, ih others (itemsJson_eq_ok_iff.mpr more)⟩

/-- So can the list of them. -/
theorem properValue_list (large : Bool) {item : Field} {items : List Slot}
    (proper : ProperColumn item items) : ProperValue (.list large item) (.list items) := by
  intro document rendered
  simp only [valueJson] at rendered
  obtain ⟨documents, listed, rfl⟩ := map_eq_ok_iff.mp rendered
  exact .array (isProper_of_itemsJson proper listed)

/-- The documents of a row can be written down. -/
theorem isProper_of_membersJson (proper : ProperRow fields row) {pairs : List (String × Json)}
    (rendered : membersJson fields row = .ok pairs) : ∀ pair ∈ pairs, pair.2.IsProper := by
  -- The induction is on the cells of the row, which stand under their fields.
  induction proper generalizing pairs with
  | nil =>
    simp only [membersJson] at rendered
    cases rendered
    exact List.forall_mem_nil _
  | @cons field slot fields row first others ih =>
    simp only [membersJson] at rendered
    obtain ⟨document, one, rendered⟩ := bind_eq_ok_iff.mp rendered
    obtain ⟨behind, more, same⟩ := bind_eq_ok_iff.mp rendered
    cases same
    exact List.forall_mem_cons.mpr ⟨first document one, ih more⟩

/-- Columns side by side can be written down if each of them can. -/
theorem properValue_struct (proper : ProperRow fields row) :
    ProperValue (.struct fields) (.struct row) := by
  intro document rendered
  simp only [valueJson] at rendered
  obtain ⟨pairs, listed, rfl⟩ := map_eq_ok_iff.mp rendered
  exact isProper_ofPairs (isProper_of_membersJson proper listed)

/-- So can a row. -/
theorem isProper_of_rowJson {schema : Schema} (proper : ProperRow schema.fields row)
    {data : Json.Fields} (rendered : rowJson schema row = .ok data) :
    (Json.object data).IsProper := by
  obtain ⟨pairs, listed, rfl⟩ := map_eq_ok_iff.mp rendered
  exact isProper_ofPairs (isProper_of_membersJson proper listed)

end

section

variable {fields : List Field} {columns : List Column} {count : Nat}

/-- Columns that have a cell begin with a row, which has one cell of each. -/
theorem properRow_of_heads (proper : List.Forall₂ ProperColumn fields columns)
    (filled : ∀ column ∈ columns, 0 < column.length) :
    ProperRow fields (columns.filterMap List.head?) := by
  induction proper with
  | nil => exact .nil
  | @cons field column fields columns first others ih =>
    obtain ⟨positive, more⟩ := List.forall_mem_cons.mp filled
    -- A column with a cell has a first one.
    obtain ⟨slot, rest, rfl⟩ := List.exists_cons_of_length_pos positive
    exact .cons (first slot List.mem_cons_self) (ih more)

/-- The rows of columns that are long enough have one cell of each. -/
theorem properRow_of_rowsOf (proper : List.Forall₂ ProperColumn fields columns)
    (long : ∀ column ∈ columns, count ≤ column.length) :
    ∀ row ∈ rowsOf count columns, ProperRow fields row := by
  -- The induction is on the rows, of which the first is made of the first cells.
  induction count generalizing columns with
  | zero => exact List.forall_mem_nil _
  | succ count ih =>
    rw [rowsOf, List.forall_mem_cons]
    constructor
    · exact properRow_of_heads proper fun column member =>
        Nat.lt_of_lt_of_le (Nat.succ_pos count) (long column member)
    · -- Without their first cells the columns are as proper, and long enough for the other rows.
      refine ih ?_ fun column member => ?_
      · rw [List.forall₂_map_right_iff]
        exact proper.imp fun field column cells slot member =>
          cells slot (List.mem_of_mem_tail member)
      · obtain ⟨whole, among, rfl⟩ := List.mem_map.mp member
        have enough := long whole among
        rw [List.length_tail]
        omega

end

-- The induction is on the types, and on the fields within them.
mutual

/-- The cells that are read for a field can be written down. -/
theorem fieldColumn_proper (known : Surroundings) (field : FieldOf DataType) {parts rest : Parts}
    {column : Column} (ran : fieldColumn known field parts = some (column, rest)) :
    ProperColumn field column := by
  obtain ⟨name, type, nullable, source, notes⟩ := field
  simp only [fieldColumn] at ran
  exact fun slot member => properCell_of_value (typeColumn_proper known source type ran slot member)

/-- So can the cells that are read for each of some fields. -/
theorem fieldColumns_proper (known : Surroundings) (fields : List (FieldOf DataType))
    {parts rest : Parts} {columns : List Column}
    (ran : fieldColumns known fields parts = some (columns, rest)) :
    List.Forall₂ ProperColumn fields columns := by
  -- Each field takes its own parts, and leaves the others to those behind it.
  cases fields with
  | nil =>
    simp only [fieldColumns] at ran
    cases ran
    exact .nil
  | cons field fields =>
    simp only [fieldColumns, Option.bind_eq_bind, Option.bind_eq_some_iff] at ran
    obtain ⟨⟨column, _⟩, first, ⟨others, _⟩, behind, same⟩ := ran
    cases same
    exact .cons (fieldColumn_proper known field first) (fieldColumns_proper known fields behind)

/-- So can the values that are read of a type. -/
theorem typeColumn_proper (known : Surroundings) (source : Option DictionaryRef) (type : DataType)
    {parts rest : Parts} {column : Column}
    (ran : typeColumn known source type parts = some (column, rest)) :
    ∀ slot ∈ column, ProperValue type slot.value := by
  intro slot member
  -- Of a leaf it does not matter how its cells are read.
  cases type
  case int kind =>
    simp only [typeColumn, fixed?, Option.bind_eq_bind, Option.bind_some] at ran
    obtain ⟨piece, size, read⟩ := value_of_fixedColumn ran slot member
    have few : piece.length ≤ 8 := size ▸ kind.bytes_le
    rw [read]
    split
    · exact properValue_int kind (Bytes.toInt_fits few).1 (Bytes.toInt_fits few).2
    · exact properValue_int kind (by omega) (Int.ofNat_le.mpr (Bytes.toNat_le_max64 few))
  case list large item =>
    simp only [typeColumn, Option.bind_eq_bind, Option.bind_eq_some_iff] at ran
    obtain ⟨⟨node, _⟩, _, ⟨bitmap, _⟩, _, ⟨buffer, _⟩, _, ⟨items, _⟩, read, places, _, _, _,
      valid, _, same⟩ := ran
    cases same
    -- The items of a list are among those of all lists.
    obtain ⟨part, stretch, same⟩ := List.mem_map.mp (value_mem_of_slots member)
    rw [← same]
    have proper := fieldColumn_proper known item read
    exact properValue_list large fun slot among => proper slot (mem_of_marked stretch among)
  case struct fields =>
    simp only [typeColumn, Option.bind_eq_bind, Option.bind_eq_some_iff] at ran
    obtain ⟨⟨node, _⟩, _, ⟨bitmap, _⟩, _, ⟨columns, others⟩, read, made⟩ := ran
    -- However it is told which cells are there, the columns are put side by side.
    have sides : ∃ valid, structs? fields valid columns = some column := by
      simp only at made
      split at made
      · split at made
        all_goals
          obtain ⟨valid, _, made⟩ := Option.bind_eq_some_iff.mp made
          obtain ⟨cells, joined, same⟩ := Option.bind_eq_some_iff.mp made
          cases same
          exact ⟨valid, joined⟩
      · obtain ⟨valid, _, made⟩ := Option.bind_eq_some_iff.mp made
        obtain ⟨cells, joined, same⟩ := Option.bind_eq_some_iff.mp made
        cases same
        exact ⟨valid, joined⟩
    obtain ⟨valid, made⟩ := sides
    simp only [structs?, Option.bind_eq_bind, Option.bind_eq_some_iff, Option.guard_eq_some'] at made
    obtain ⟨_, long, _, _, same⟩ := made
    cases same
    obtain ⟨row, among, same⟩ := List.mem_map.mp (value_mem_of_slots member)
    rw [← same]
    have proper := fieldColumns_proper known fields read
    refine properValue_struct (properRow_of_rowsOf proper (fun column member => ?_) row among)
    have exact := List.all_eq_true.mp long column member
    exact Nat.le_of_eq (of_decide_eq_true exact).symm
  all_goals exact properValue_of_isLeaf (by trivial) _

end

/-- A batch whose rows can be written down where they are rendered. -/
def Batch.IsProper (batch : Batch) : Prop :=
  ∀ row ∈ batch.rows, ProperRow batch.schema.fields row

/-- A batch of such rows under the name of its schema. -/
def NamedBatch.IsProper (batch : NamedBatch) : Prop :=
  ∀ row ∈ batch.rows, ProperRow batch.schema.fields row

/-- A batch that was read out of a message is proper. -/
theorem Batch.IsRead.isProper {batch : Batch} (isRead : batch.IsRead) : batch.IsProper := by
  obtain ⟨assembly, message, layout, body, read⟩ := isRead
  obtain ⟨schema, _, read⟩ := Option.bind_eq_some_iff.mp read
  obtain ⟨parts, _, read⟩ := Option.bind_eq_some_iff.mp read
  obtain ⟨⟨columns, others⟩, columnsRead, read⟩ := Option.bind_eq_some_iff.mp read
  simp only [Batch.ofColumns?, Option.ite_none_right_eq_some, Option.some.injEq] at read
  obtain ⟨⟨long, _⟩, rfl⟩ := read
  have proper := fieldColumns_proper _ _ columnsRead
  -- All columns have as many cells as the batch has rows.
  rw [Batch.IsProper, Batch.rows, Rows.toList_ofColumns]
  refine properRow_of_rowsOf proper fun column member => ?_
  have exact : column.length = layout.count :=
    of_decide_eq_true (List.all_eq_true.mp long column member)
  omega

namespace Batches

variable {batches rest : Batches}

/-- The rows that were not read one by one yet can be written down where they are rendered. -/
def HoldsProper (batches : Batches) : Prop :=
  ∀ held, batches.held = some held → held.IsProper

/-- A batch that is fetched is proper. -/
theorem isProper_of_fetch {batch : NamedBatch} (ran : batches.fetch = some (.ok (some batch), rest)) :
    batch.IsProper := by
  -- Under its name the batch is the one that was read.
  obtain ⟨name, read, rfl, isRead⟩ := exists_tag_of_fetch ran
  exact isRead.isProper

/-- An event of a proper batch can be written down, and the rows behind it as well. -/
theorem isProper_of_nextHeld {held : NamedBatch} {row : List Slot} {table : Rows}
    {record : Record} (split : held.table.next? = some (row, table)) (proper : held.IsProper)
    (ran : batches.nextHeld held row table = some (.ok (some record), rest)) :
    (Json.object record.data).IsProper ∧ rest.HoldsProper := by
  rw [NamedBatch.IsProper, NamedBatch.rows, Rows.toList_of_next? split,
    List.forall_mem_cons] at proper
  -- Only a row that was rendered is an event, and the rows behind it stay held.
  unfold nextHeld at ran
  split at ran
  · rename_i found rendered
    cases ran
    obtain ⟨data, made, rfl⟩ := map_eq_ok_iff.mp rendered
    refine ⟨isProper_of_rowJson proper.1 made, fun other same => ?_⟩
    cases same
    exact proper.2
  · cases ran

/-- So can an event that is fetched. -/
theorem isProper_of_fetchRow {record : Record}
    (ran : batches.fetchRow = some (.ok (some record), rest)) :
    (Json.object record.data).IsProper ∧ rest.HoldsProper := by
  -- Batches without rows on the way are passed.
  fun_induction fetchRow batches with
  | case1 => cases ran
  | case2 => cases ran
  | case3 => cases ran
  | case4 batches fetched middle fetchedRan empty ih => exact ih ran
  | case5 batches fetched middle fetchedRan row table held =>
    exact isProper_of_nextHeld held (isProper_of_fetch fetchedRan) ran

/-- Each event that is read can be written down, and what is held then stays proper. -/
theorem isProper_of_nextRecord {record : Record} (proper : batches.HoldsProper)
    (ran : batches.nextRecord = some (.ok (some record), rest)) :
    (Json.object record.data).IsProper ∧ rest.HoldsProper := by
  -- Held rows come first, and a batch without any is let go of.
  unfold nextRecord at ran
  split at ran
  · rename_i held known
    split at ran
    · exact isProper_of_fetchRow ran
    · rename_i row table split
      exact isProper_of_nextHeld split (proper held known) ran
  · exact isProper_of_fetchRow ran

end Batches

end EngineClient.Arrow
