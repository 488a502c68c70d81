import EngineClient.Arrow.Batches

/-! Batches gathered by the names of their schemas. -/

namespace EngineClient

/-- The batches under each schema name, in the order in which they came. -/
structure Tables where
  /-- The batches by name. -/
  entries : Keyed (List Arrow.NamedBatch) := []

/-- Why batches cannot be joined to one. -/
inductive JoinFault where
  /-- A column has two types, or misses cells where the first batch says it must not. -/
  | mismatch
  /-- A batch lacks a column of the first one. -/
  | shortBatch
deriving DecidableEq, Repr

namespace Tables

/-- Adds a batch behind those of its name. -/
def push (tables : Tables) (batch : Arrow.NamedBatch) : Tables :=
  ⟨tables.entries.update batch.name fun held => held.getD [] ++ [batch]⟩

/-- How many names there are. -/
def size (tables : Tables) : Nat :=
  tables.entries.length

/-- The batches under a name. -/
def batches? (tables : Tables) (name : String) : Option (List Arrow.NamedBatch) :=
  tables.entries.get? name

/-- How many rows some batches have together. -/
def countRows (batches : List Arrow.NamedBatch) : UInt64 :=
  batches.foldl (fun rows batch => rows + batch.numRows) 0

/-- How many rows there are under a name. -/
def numRows (tables : Tables) (name : String) : UInt64 :=
  countRows ((tables.batches? name).getD [])

/-- How many rows there are under all names. -/
def totalRows (tables : Tables) : UInt64 :=
  tables.entries.foldl (fun rows entry => rows + countRows entry.2) 0

/-- Whether a column has one type in all batches. -/
def checkColumn (place : Nat) (field : Arrow.Field) (batches : List Arrow.NamedBatch) :
    Except JoinFault Unit :=
  let columns := batches.map fun batch => batch.schema.fields[place]?
  if columns.any Option.isNone then .error .shortBatch
  else if columns.all fun column => column.any fun other => field.type.same other.type then .ok ()
  else .error .mismatch

/-- Checks the columns one after another, the first fault counting. -/
def checkColumns (batches : List Arrow.NamedBatch) : Nat → List Arrow.Field → Except JoinFault Unit
  | _, [] => .ok ()
  | place, field :: rest =>
    match checkColumn place field batches with
    | .ok () => checkColumns batches (place + 1) rest
    | .error fault => .error fault

/-- Whether a row has all the cells that fields say it must have. -/
def rowComplete (fields : List Arrow.Field) (row : List Arrow.Slot) : Bool :=
  (List.zip fields row).all fun (field, slot) => field.nullable || slot.valid

/-- Joins batches by the places of their columns, under the schema of the first. -/
def join (first : Arrow.NamedBatch) (batches : List Arrow.NamedBatch) :
    Except JoinFault Arrow.NamedBatch :=
  let fields := first.schema.fields
  match checkColumns batches 0 fields with
  | .error fault => .error fault
  | .ok () =>
    -- Columns that the first batch lacks are dropped.
    let rows := batches.flatMap fun batch => batch.rows.map fun row => row.take fields.length
    if rows.all (rowComplete fields) then .ok { first with table := .filled rows }
    else .error .mismatch

/-- All rows under a name as one batch, if there are batches under it. -/
def concat (tables : Tables) (name : String) : Option (Except JoinFault Arrow.NamedBatch) :=
  match tables.batches? name with
  | some (first :: rest) => some (join first (first :: rest))
  | _ => none

/-- Batches of a name that cannot be joined. -/
def mismatchError [Platform] (name : String) (batches : List Arrow.NamedBatch) : Error :=
  { kind := .protocol, message := some ("batches of schema " ++ name ++ " do not line up")
    input := some name
    causes := Platform.joinFaults (batches.map fun batch => ⟨batch.schema, batch.table⟩) }

end Tables

end EngineClient
