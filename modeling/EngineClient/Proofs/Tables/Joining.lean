import EngineClient.Proofs.Tables
import Mathlib.Data.List.Forall2

/-! Joining the batches of a name: when all columns and rows are kept, and when a fault is told. -/

namespace EngineClient

open Arrow (Field NamedBatch Slot)

/-- The names of the columns, in order. -/
def Arrow.NamedBatch.columnNames (batch : NamedBatch) : List String :=
  batch.schema.fields.map fun field => field.name

namespace Tables

/-- The batches of a name among those that were added, in order. -/
def named (name : String) (pushed : List NamedBatch) : List NamedBatch :=
  pushed.filter fun batch => batch.name = name

/-- All rows of some batches, each with the batch that it is from. -/
def rowsFrom (batches : List NamedBatch) : List (NamedBatch × List Slot) :=
  batches.flatMap fun batch => batch.rows.map fun row => (batch, row)

/-- A row read as cells under names, in whatever order the columns stand. -/
def SameCells (names names' : List String) (row row' : List Slot) : Prop :=
  (names.zip row).Perm (names'.zip row')

/-- One batch has the rows of others, in order, and the columns of each of them. -/
structure Keeps (batches : List NamedBatch) (joined : NamedBatch) : Prop where
  rows : List.Forall₂ (fun row source =>
    SameCells joined.columnNames source.1.columnNames row source.2) joined.rows (rowsFrom batches)
  columns : ∀ batch ∈ batches, joined.columnNames.Perm batch.columnNames

/-- The failure that is reported for a fault; a batch that is too short is not reported but crashes. -/
def report? [Platform] (name : String) (batches : List NamedBatch) : JoinFault → Option Error
  | .mismatch => some (mismatchError name batches)
  | .shortBatch => none

/-- What may be answered for the batches of a name: none of them, all of them as one batch, or the
report that they do not line up. -/
def Answers [Platform] (pushed : List NamedBatch) (name : String) : Prop :=
  match (({} : Tables).pushAll pushed).concat name with
  | none => named name pushed = []
  | some (.ok joined) => named name pushed ≠ [] ∧ Keeps (named name pushed) joined
  | some (.error fault) => named name pushed ≠ [] ∧
    report? name (named name pushed) fault = some (mismatchError name (named name pushed))

section

variable {place : Nat} {field : Field} {fields : List Field} {batches : List NamedBatch}

/-- All batches have a column at a place. -/
def Reach (place : Nat) (batches : List NamedBatch) : Prop :=
  ∀ batch ∈ batches, place < batch.schema.fields.length

/-- In all batches the column at a place has the type of a field. -/
def Agree (place : Nat) (field : Field) (batches : List NamedBatch) : Prop :=
  ∀ batch ∈ batches, ∃ other, batch.schema.fields[place]? = some other ∧
    field.type.same other.type = true

/-- At some place all batches have a column, but not all of them one of the type of the field. -/
def Clash (fields : List Field) (batches : List NamedBatch) : Prop :=
  ∃ place field, fields[place]? = some field ∧ Reach place batches ∧ ¬Agree place field batches

/-- All batches have a column for each of the fields. -/
def Cover (fields : List Field) (batches : List NamedBatch) : Prop :=
  ∀ batch ∈ batches, fields.length ≤ batch.schema.fields.length

/-- Some row misses a cell that the fields ask for. -/
def Lack (fields : List Field) (batches : List NamedBatch) : Prop :=
  ∃ batch ∈ batches, ∃ row ∈ batch.rows, rowComplete fields row = false

/-- Where columns agree all batches have one. -/
theorem Agree.reach (agree : Agree place field batches) : Reach place batches := by
  intro batch member
  obtain ⟨other, found, _⟩ := agree batch member
  exact (List.getElem?_eq_some_iff.mp found).1

/-- Where all batches have a column, they have one at every place before. -/
theorem Reach.of_le {before : Nat} (reach : Reach place batches) (le : before ≤ place) :
    Reach before batches :=
  fun batch member => Nat.lt_of_le_of_lt le (reach batch member)

/-- The search for a batch without the column finds one exactly if not all have it. -/
theorem any_isNone_iff :
    (batches.map fun batch => batch.schema.fields[place]?).any Option.isNone = true ↔
      ¬Reach place batches := by
  simp [Reach]

/-- The comparison of all columns with the field succeeds exactly if they agree. -/
theorem all_same_iff :
    ((batches.map fun batch => batch.schema.fields[place]?).all fun column =>
        column.any fun other => field.type.same other.type) = true ↔
      Agree place field batches := by
  simp [Agree, Option.any_eq_true]

/-- A column that agrees in all batches is in order. -/
theorem checkColumn_of_agree (agree : Agree place field batches) :
    checkColumn place field batches = .ok () := by
  have present := mt any_isNone_iff.mp (not_not_intro agree.reach)
  simp only [checkColumn, if_neg present, if_pos (all_same_iff.mpr agree)]

/-- A column that all batches have with different types is told as a mismatch. -/
theorem checkColumn_of_clash (reach : Reach place batches) (clash : ¬Agree place field batches) :
    checkColumn place field batches = .error .mismatch := by
  have present := mt any_isNone_iff.mp (not_not_intro reach)
  simp only [checkColumn, if_neg present, if_neg (mt all_same_iff.mp clash)]

/-- A column that some batch lacks is found missing, whatever the types of the others. -/
theorem checkColumn_of_short (short : ¬Reach place batches) :
    checkColumn place field batches = .error .shortBatch := by
  simp only [checkColumn, if_pos (any_isNone_iff.mpr short)]

/-- The columns from a place on are in order exactly if each of them agrees. -/
theorem checkColumns_eq_ok_iff :
    checkColumns batches place fields = .ok () ↔
      ∀ behind field, fields[behind]? = some field → Agree (place + behind) field batches := by
  -- The columns are looked at one after another, so the place moves with the induction.
  induction fields generalizing place with
  | nil => simp [checkColumns]
  | cons first fields ih =>
    rw [checkColumns]
    -- Where the first column is in order, the others decide.
    by_cases agree : Agree place first batches
    · rw [checkColumn_of_agree agree]
      constructor
      · intro rest behind field found
        obtain _ | behind := behind
        · cases found
          exact agree
        · have later := ih.mp rest behind field found
          rwa [Nat.add_right_comm] at later
      · intro all
        refine ih.mpr fun behind field found => ?_
        have later := all (behind + 1) field found
        rwa [← Nat.add_assoc, Nat.add_right_comm] at later
    · -- The first column is not in order, and so is none of the rest looked at.
      have fault : checkColumn place first batches ≠ .ok () := by
        by_cases reach : Reach place batches
        · rw [checkColumn_of_clash reach agree]
          exact nofun
        · rw [checkColumn_of_short reach]
          exact nofun
      constructor
      · intro checked
        cases found : checkColumn place first batches with
        | ok nothing => exact (fault found).elim
        | error fault => rw [found] at checked; cases checked
      · intro all
        exact (agree (all 0 first rfl)).elim

/-- A mismatch is told exactly where all batches have a column, but not of one type. -/
theorem checkColumns_eq_mismatch_iff :
    checkColumns batches place fields = .error .mismatch ↔
      ∃ behind field, fields[behind]? = some field ∧ Reach (place + behind) batches ∧
        ¬Agree (place + behind) field batches := by
  -- The induction is on the columns, down to the first that is not in order.
  induction fields generalizing place with
  | nil => simp [checkColumns]
  | cons first fields ih =>
    rw [checkColumns]
    by_cases agree : Agree place first batches
    · rw [checkColumn_of_agree agree]
      constructor
      · intro told
        obtain ⟨behind, field, found, reach, clash⟩ := ih.mp told
        rw [Nat.add_right_comm] at reach clash
        exact ⟨behind + 1, field, found, reach, clash⟩
      · rintro ⟨behind, field, found, reach, clash⟩
        obtain _ | behind := behind
        · cases found
          exact (clash agree).elim
        · rw [← Nat.add_assoc, Nat.add_right_comm] at reach clash
          exact ih.mpr ⟨behind, field, found, reach, clash⟩
    · by_cases reach : Reach place batches
      · rw [checkColumn_of_clash reach agree]
        exact ⟨fun _ => ⟨0, first, rfl, reach, agree⟩, fun _ => rfl⟩
      · -- A batch that lacks this column lacks all columns behind it, so nothing can clash there.
        rw [checkColumn_of_short reach]
        refine ⟨nofun, ?_⟩
        rintro ⟨behind, _, _, later, _⟩
        exact (reach (later.of_le (Nat.le_add_right place behind))).elim

/-- The columns of some batches are in order exactly if there are enough of them, and none clash. -/
theorem checkColumns_ok_iff :
    checkColumns batches 0 fields = .ok () ↔ Cover fields batches ∧ ¬Clash fields batches := by
  rw [checkColumns_eq_ok_iff]
  simp only [Nat.zero_add]
  constructor
  · intro all
    refine ⟨fun batch member => ?_, ?_⟩
    · -- The last column is one that the batch has, so it has all of them.
      cases last : fields.length with
      | zero => exact Nat.zero_le _
      | succ place =>
        have inside : place < fields.length := by omega
        exact (all place _ (List.getElem?_eq_getElem inside)).reach batch member
    · rintro ⟨place, field, found, _, clash⟩
      exact clash (all place field found)
  · -- A column that all batches reach and that does not clash is in order.
    rintro ⟨cover, clear⟩ place field found
    have inside := (List.getElem?_eq_some_iff.mp found).1
    have reach : Reach place batches :=
      fun batch member => Nat.lt_of_lt_of_le inside (cover batch member)
    exact by_contra fun clash => clear ⟨place, field, found, reach, clash⟩

/-- Whether it is told that batches do not line up: a column has two types, or there are all the
columns but not all the cells that the fields ask for. -/
def Told (fields : List Field) (batches : List NamedBatch) : Prop :=
  Clash fields batches ∨ Cover fields batches ∧ Lack fields batches

/-- Cells beyond the last of some names or fields are passed over when they are paired. -/
theorem zip_take_length {α β : Type} (left : List α) (right : List β) :
    left.zip (right.take left.length) = left.zip right := by
  -- The induction is on the shorter of the two.
  induction left generalizing right with
  | nil => rfl
  | cons item left ih =>
    cases right with
    | nil => rfl
    | cons other right => rw [List.length_cons, List.take_succ_cons, List.zip_cons_cons, ih,
        List.zip_cons_cons]

/-- Some row misses a cell exactly if one of the rows does that are cut to the fields. -/
theorem all_complete_iff :
    ((batches.flatMap fun batch => batch.rows.map fun row => row.take fields.length).all
      (rowComplete fields)) = true ↔ ¬Lack fields batches := by
  have same (row : List Slot) : rowComplete fields (row.take fields.length)
      = rowComplete fields row := by
    rw [rowComplete, rowComplete, zip_take_length]
  simp [Lack, same]

end

section

variable {first : NamedBatch} {batches : List NamedBatch}

/-- Columns that clash are told as a mismatch. -/
theorem join_of_clash (clash : Clash first.schema.fields batches) :
    join first batches = .error .mismatch := by
  obtain ⟨place, field, found, differ⟩ := clash
  -- The check finds the clash at some column, and joining stops there.
  have checked : checkColumns batches 0 first.schema.fields = .error .mismatch := by
    refine checkColumns_eq_mismatch_iff.mpr ⟨place, field, found, ?_⟩
    rw [Nat.zero_add]
    exact differ
  rw [join, checked]

/-- What is told is a mismatch. -/
theorem join_of_told (told : Told first.schema.fields batches) :
    join first batches = .error .mismatch := by
  by_cases clash : Clash first.schema.fields batches
  · exact join_of_clash clash
  · -- The columns are in order then, so it is the cells that are looked at.
    obtain ⟨cover, lack⟩ := told.resolve_left clash
    have checked := checkColumns_ok_iff.mpr ⟨cover, clash⟩
    have missing := mt all_complete_iff.mp (not_not_intro lack)
    simp only [join, checked, if_neg missing]

/-- Where nothing is told and a column is missing, the search for it breaks off. -/
theorem join_of_short (silent : ¬Told first.schema.fields batches)
    (short : ¬Cover first.schema.fields batches) : join first batches = .error .shortBatch := by
  -- The columns are neither in order nor told to clash, so only the third end is left.
  cases checked : checkColumns batches 0 first.schema.fields with
  | ok nothing => exact (short (checkColumns_ok_iff.mp checked).1).elim
  | error fault =>
    cases fault with
    | shortBatch => rw [join, checked]
    | mismatch =>
      obtain ⟨place, field, found, clash⟩ := checkColumns_eq_mismatch_iff.mp checked
      rw [Nat.zero_add] at clash
      exact (silent (.inl ⟨place, field, found, clash⟩)).elim

/-- Where nothing is told and no column is missing, all rows stand under the columns of the first
batch, without their cells beyond. -/
theorem join_of_cover (silent : ¬Told first.schema.fields batches)
    (cover : Cover first.schema.fields batches) :
    join first batches = .ok { first with
      table := .filled ((rowsFrom batches).map fun source =>
        source.2.take first.schema.fields.length) } := by
  -- What would be told is absent: no columns clash, and no cell is lacking.
  have clear : ¬Clash first.schema.fields batches := fun clash => silent (.inl clash)
  have complete : ¬Lack first.schema.fields batches := fun lack => silent (.inr ⟨cover, lack⟩)
  have checked := checkColumns_ok_iff.mpr ⟨cover, clear⟩
  -- The joined rows are those of the batches one after another, each cut to the columns.
  have rows : (batches.flatMap fun batch =>
        batch.rows.map fun row => row.take first.schema.fields.length)
      = (rowsFrom batches).map fun source => source.2.take first.schema.fields.length := by
    simp [rowsFrom, List.map_flatMap, Function.comp_def]
  have filled := all_complete_iff.mpr complete
  rw [rows] at filled
  simp only [join, checked, rows, if_pos filled]

/-- A batch that stands under the columns of another one as under its own: it has the same columns,
and each of its rows the same cells under them. -/
structure StandsUnder (first batch : NamedBatch) : Prop where
  columns : first.columnNames.Perm batch.columnNames
  rows : ∀ row ∈ batch.rows, SameCells first.columnNames batch.columnNames row row

/-- Rows that are put under the columns of the first batch are kept exactly if all batches stand
under them. -/
theorem keeps_iff :
    Keeps batches { first with
      table := .filled ((rowsFrom batches).map fun source =>
        source.2.take first.schema.fields.length) } ↔
      ∀ batch ∈ batches, StandsUnder first batch := by
  -- To cut a row to the columns changes nothing of how it is read under them.
  have cut (batch : NamedBatch) (row : List Slot) :
      SameCells first.columnNames batch.columnNames (row.take first.schema.fields.length) row ↔
        SameCells first.columnNames batch.columnNames row row := by
    have length : first.schema.fields.length = first.columnNames.length :=
      (List.length_map _).symm
    rw [SameCells, SameCells, length, zip_take_length]
  -- The rows of the batches stand in order, so each can be looked at with its batch.
  have rows : (List.Forall₂ (fun row source =>
        SameCells first.columnNames source.1.columnNames row source.2)
        ((rowsFrom batches).map fun source => source.2.take first.schema.fields.length)
        (rowsFrom batches)) ↔
      ∀ batch ∈ batches, ∀ row ∈ batch.rows,
        SameCells first.columnNames batch.columnNames row row := by
    rw [List.forall₂_map_left_iff, List.forall₂_same]
    simp only [cut]
    constructor
    · intro all batch member row inside
      exact all (batch, row) (List.mem_flatMap.mpr ⟨batch, member, List.mem_map_of_mem inside⟩)
    · rintro all ⟨batch, row⟩ found
      obtain ⟨source, member, inside⟩ := List.mem_flatMap.mp found
      obtain ⟨_, listed, same⟩ := List.mem_map.mp inside
      cases same
      exact all batch member row listed
  constructor
  · intro keeps batch member
    exact ⟨keeps.columns batch member, rows.mp keeps.rows batch member⟩
  · intro all
    exact ⟨rows.mpr fun batch member => (all batch member).rows,
      fun batch member => (all batch member).columns⟩

/-- Batches that stand under the columns of the first one have all of these columns. -/
theorem cover_of_standsUnder (all : ∀ batch ∈ batches, StandsUnder first batch) :
    Cover first.schema.fields batches := by
  intro batch member
  have same := (all batch member).columns.length_eq
  rw [NamedBatch.columnNames, NamedBatch.columnNames, List.length_map, List.length_map] at same
  exact Nat.le_of_eq same

end

/-- Adding a batch changes what is under its name only. -/
theorem batches?_push {tables : Tables} (ascends : tables.entries.Ascends) (batch : NamedBatch)
    (name : String) :
    ((tables.push batch).batches? name).getD []
      = (tables.batches? name).getD [] ++ named name [batch] := by
  rw [batches?, Tables.push, ascends.get?_update, named]
  -- Only the batches under the name of the new one become more.
  by_cases same : name = batch.name
  · rw [if_pos same]
    simp [same, batches?]
  · have different : batch.name ≠ name := fun other => same other.symm
    rw [if_neg same]
    simp [different, batches?]

/-- Under each name are the batches of that name, in the order in which they were added. -/
theorem batches?_pushAll {tables : Tables} (ascends : tables.entries.Ascends)
    (pushed : List NamedBatch) (name : String) :
    ((tables.pushAll pushed).batches? name).getD []
      = (tables.batches? name).getD [] ++ named name pushed := by
  -- The induction is on the batches, each of which goes behind those before it.
  induction pushed generalizing tables with
  | nil => exact (List.append_nil _).symm
  | cons batch pushed ih =>
    have more : named name (batch :: pushed) = named name [batch] ++ named name pushed := by
      rw [named, named, named, ← List.filter_append, List.singleton_append]
    rw [more, ← List.append_assoc, ← batches?_push ascends]
    exact ih (ascends.update _ _)

/-- The batches of a name are joined if there is one. -/
theorem concat_pushAll (pushed : List NamedBatch) (name : String) :
    (({} : Tables).pushAll pushed).concat name
      = match named name pushed with
        | [] => none
        | first :: rest => some (join first (first :: rest)) := by
  have bare : Keyed.Ascends ({} : Tables).entries := .nil
  have held := batches?_pushAll bare pushed name
  -- Under the name stand the batches that were pushed under it, if there were any.
  have under : (({} : Tables).pushAll pushed).batches? name = some (named name pushed) ∨
      (({} : Tables).pushAll pushed).batches? name = none ∧ named name pushed = [] := by
    cases found : (({} : Tables).pushAll pushed).batches? name with
    | none => rw [found] at held; exact .inr ⟨rfl, held.symm⟩
    | some batches => rw [found] at held; exact .inl (congrArg some held)
  unfold concat
  rcases under with found | ⟨found, empty⟩
  · rw [found]
    cases named name pushed <;> rfl
  · rw [found, empty]

/-- The batches of a name are answered as they should be exactly if it is told that they do not line
up, or if all of them stand under the columns of the first one. -/
theorem answers_of_named [Platform] {pushed : List NamedBatch} {name : String} {first : NamedBatch}
    {rest : List NamedBatch} (held : named name pushed = first :: rest) :
    Answers pushed name ↔ Told first.schema.fields (first :: rest) ∨
      ∀ batch ∈ first :: rest, StandsUnder first batch := by
  have answer := concat_pushAll pushed name
  rw [held] at answer
  rw [Answers, answer, held]
  simp only
  -- The three ways in which joining can end are told apart by what the batches are like.
  by_cases told : Told first.schema.fields (first :: rest)
  · simp [join_of_told told, told, report?]
  · -- Without a report the batches are joined, or the call panics because one of them is short.
    by_cases cover : Cover first.schema.fields (first :: rest)
    · rw [join_of_cover told cover]
      simp [keeps_iff, told]
    · have lacking := mt cover_of_standsUnder cover
      simp only [join_of_short told cover, told, false_or]
      exact ⟨fun reported => (nomatch reported.2), fun all => (lacking all).elim⟩

/-- There is no answer for a name exactly if no batch of that name was added. If there are some, they
are answered as they should be exactly if it is told that they do not line up, or if all of them
stand under the columns of the first one. The first is the case exactly if a column that all of them
have has two types, or if no column is missing but a cell that the first batch asks for. -/
theorem answers_iff [Platform] (pushed : List NamedBatch) (name : String) :
    ((({} : Tables).pushAll pushed).concat name = none ↔ ∀ batch ∈ pushed, batch.name ≠ name) ∧
    (Answers pushed name ↔ ∀ first, (named name pushed).head? = some first →
      Told first.schema.fields (named name pushed) ∨
        ∀ batch ∈ named name pushed, StandsUnder first batch) := by
  have answer := concat_pushAll pushed name
  have bare : named name pushed = [] ↔ ∀ batch ∈ pushed, batch.name ≠ name := by
    simp [named]
  rw [answer, ← bare]
  -- Without a batch of that name there is nothing to answer.
  cases held : named name pushed with
  | nil =>
    rw [held] at answer
    simp [Answers, answer, held]
  | cons first rest => simp [answers_of_named held]

/-- A column of whole numbers. -/
def numbers (name : String) : Field :=
  ⟨name, .int ⟨true, .eight⟩, true, none, []⟩

/-- A batch of one row, with a whole number in each of some columns. -/
def oneRow (columns : List (String × Int)) : NamedBatch where
  name := "m"
  schema := ⟨columns.map fun column => numbers column.1, []⟩
  table := .filled [columns.map fun column => ⟨true, .int column.2⟩]

open scoped Platform in
/-- A second batch with one column more loses it, one whose column has another name has it renamed,
and one with a column less makes the search for that column break off. -/
theorem not_answers_evolved :
    (({} : Tables).pushAll [oneRow [("v", 1)], oneRow [("v", 2), ("w", 3)]]).concat "m"
        = some (.ok ⟨"m", ⟨[numbers "v"], []⟩, .filled [[⟨true, .int 1⟩], [⟨true, .int 2⟩]]⟩) ∧
      ¬Answers [oneRow [("v", 1)], oneRow [("v", 2), ("w", 3)]] "m" ∧
    (({} : Tables).pushAll [oneRow [("v", 1)], oneRow [("other", 2)]]).concat "m"
        = some (.ok ⟨"m", ⟨[numbers "v"], []⟩, .filled [[⟨true, .int 1⟩], [⟨true, .int 2⟩]]⟩) ∧
      ¬Answers [oneRow [("v", 1)], oneRow [("other", 2)]] "m" ∧
    (({} : Tables).pushAll [oneRow [("v", 1), ("w", 3)], oneRow [("v", 2)]]).concat "m"
        = some (.error .shortBatch) ∧
      ¬Answers [oneRow [("v", 1), ("w", 3)], oneRow [("v", 2)]] "m" := by
  have dropped : (({} : Tables).pushAll [oneRow [("v", 1)], oneRow [("v", 2), ("w", 3)]]).concat "m"
      = some (.ok ⟨"m", ⟨[numbers "v"], []⟩, .filled [[⟨true, .int 1⟩], [⟨true, .int 2⟩]]⟩) :=
    concat_pushAll _ _
  have renamed : (({} : Tables).pushAll [oneRow [("v", 1)], oneRow [("other", 2)]]).concat "m"
      = some (.ok ⟨"m", ⟨[numbers "v"], []⟩, .filled [[⟨true, .int 1⟩], [⟨true, .int 2⟩]]⟩) :=
    concat_pushAll _ _
  have short : (({} : Tables).pushAll [oneRow [("v", 1), ("w", 3)], oneRow [("v", 2)]]).concat "m"
      = some (.error .shortBatch) :=
    concat_pushAll _ _
  -- Each joining is known, and none of them tells what its batches hold.
  refine ⟨dropped, fun answers => ?_, renamed, fun answers => ?_, short, fun answers => ?_⟩
  · rw [Answers, dropped] at answers
    -- The joined batch has one column, and the second of the two batches has two.
    have columns := answers.2.columns (oneRow [("v", 2), ("w", 3)])
      (List.mem_cons_of_mem _ List.mem_cons_self)
    exact absurd columns (by decide)
  · rw [Answers, renamed] at answers
    have columns := answers.2.columns (oneRow [("other", 2)])
      (List.mem_cons_of_mem _ List.mem_cons_self)
    exact absurd columns (by decide)
  · rw [Answers, short] at answers
    cases answers.2

end Tables

end EngineClient
