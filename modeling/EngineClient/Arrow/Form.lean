import EngineClient.Arrow.Table

/-! Which fields the tables of a message have, and whether a buffer holds such tables. -/

namespace EngineClient.Arrow

/-- The kinds of tables that occur in messages. -/
inductive Form where
  /-- A whole message. -/
  | message
  /-- A schema. -/
  | schema
  /-- A field of a schema. -/
  | field
  /-- A key and its value. -/
  | pair
  /-- How a field is dictionary-encoded. -/
  | dictionary
  /-- Where the columns of a batch lie. -/
  | batch
  /-- How the columns of a batch are compressed. -/
  | compression
  /-- The values of a dictionary. -/
  | dictionaryBatch
  /-- A dense tensor. -/
  | tensor
  /-- A sparse tensor. -/
  | sparseTensor
  /-- A dimension of a tensor. -/
  | dimension
  /-- The places of a sparse tensor as coordinates. -/
  | coordinates
  /-- The places of a sparse matrix as compressed rows. -/
  | compressedRows
  /-- The places of a sparse tensor as a tree. -/
  | compressedTree
  /-- A type without parameters. -/
  | plainType
  /-- A type of whole numbers. -/
  | intType
  /-- A type with one parameter of two bytes. -/
  | unitType
  /-- A decimal type. -/
  | decimalType
  /-- A type of times of day. -/
  | timeType
  /-- A type of instants. -/
  | timestampType
  /-- A type of alternatives. -/
  | unionType
  /-- A type with one parameter of four bytes. -/
  | sizeType
  /-- A type of maps. -/
  | mapType
deriving DecidableEq, Repr

/-- What a field of a table holds. -/
inductive Part where
  /-- A number of some width, in place. -/
  | number (slot width : Nat)
  /-- A block of bytes, in place. -/
  | block (slot size : Nat)
  /-- A text. -/
  | text (slot : Nat)
  /-- Items of some size, on places of some alignment. -/
  | items (slot size alignment : Nat)
  /-- A table. -/
  | table (slot : Nat) (form : Form)
  /-- Any number of tables. -/
  | tables (slot : Nat) (form : Form)
  /-- A number in one field that tells the form of the table in another. -/
  | choice (key slot : Nat) (form : Nat → Option Form)
  /-- The same, and it must not be left out. -/
  | required (part : Part)

/-- The form of the table behind a type number. -/
def Form.ofType : Nat → Option Form
  | 2 => some .intType
  | 3 | 8 | 11 | 18 => some .unitType
  | 7 => some .decimalType
  | 9 => some .timeType
  | 10 => some .timestampType
  | 14 => some .unionType
  | 15 | 16 => some .sizeType
  | 17 => some .mapType
  | 1 | 4 | 5 | 6 | 12 | 13 | 19 | 20 | 21 | 22 | 23 | 24 | 25 | 26 => some .plainType
  | _ => none

/-- The form of the table behind a header number. -/
def Form.ofHeader : Nat → Option Form
  | 1 => some .schema
  | 2 => some .dictionaryBatch
  | 3 => some .batch
  | 4 => some .tensor
  | 5 => some .sparseTensor
  | _ => none

/-- The form of the table behind the number of a sparse layout. -/
def Form.ofSparse : Nat → Option Form
  | 1 => some .coordinates
  | 2 => some .compressedRows
  | 3 => some .compressedTree
  | _ => none

/-- The fields of a table. -/
def Form.parts : Form → List Part
  | .message =>
    [.number 4 2, .choice 6 8 ofHeader, .number 10 8, .tables 12 .pair]
  | .schema =>
    [.number 4 2, .tables 6 .field, .tables 8 .pair, .items 10 8 8]
  | .field =>
    [.text 4, .number 6 1, .choice 8 10 ofType, .table 12 .dictionary, .tables 14 .field,
      .tables 16 .pair]
  | .pair => [.text 4, .text 6]
  | .dictionary => [.number 4 8, .table 6 .intType, .number 8 1, .number 10 2]
  | .batch =>
    [.number 4 8, .items 6 16 1, .items 8 16 1, .table 10 .compression, .items 12 8 8]
  | .compression => [.number 4 1, .number 6 1]
  | .dictionaryBatch => [.number 4 8, .table 6 .batch, .number 8 1]
  | .tensor =>
    [.required (.choice 4 6 ofType), .required (.tables 8 .dimension), .items 10 8 8,
      .required (.block 12 16)]
  | .sparseTensor =>
    [.required (.choice 4 6 ofType), .required (.tables 8 .dimension), .number 10 8,
      .required (.choice 12 14 ofSparse), .required (.block 16 16)]
  | .dimension => [.number 4 8, .text 6]
  | .coordinates =>
    [.required (.table 4 .intType), .items 6 8 8, .required (.block 8 16), .number 10 1]
  | .compressedRows =>
    [.number 4 2, .required (.table 6 .intType), .required (.block 8 16),
      .required (.table 10 .intType), .required (.block 12 16)]
  | .compressedTree =>
    [.required (.table 4 .intType), .required (.items 6 16 1), .required (.table 8 .intType),
      .required (.items 10 16 1), .required (.items 12 4 4)]
  | .plainType => []
  | .intType => [.number 4 4, .number 6 1]
  | .unitType => [.number 4 2]
  | .decimalType => [.number 4 4, .number 6 4, .number 8 4]
  | .timeType => [.number 4 2, .number 6 4]
  | .timestampType => [.number 4 2, .text 6]
  | .unionType => [.number 4 2, .items 6 4 4]
  | .sizeType => [.number 4 4]
  | .mapType => [.number 4 1]

/-- What was looked at so far; a buffer that leads round and round is given up. -/
structure Visited where
  /-- How many tables. -/
  tables : Nat := 0
  /-- How many bytes, those looked at twice counted twice. -/
  bytes : Nat := 0

namespace Visited

/-- The greatest number of tables. -/
def maxTables : Nat := 1000000

/-- The greatest number of bytes. -/
def maxBytes : Nat := Nat.pow 2 31

/-- The greatest number of tables that lie within each other. -/
def maxDepth : Nat := 64

/-- Looks at some bytes, which must lie in the buffer on a place of some alignment. -/
def range (buffer : Array UInt8) (position size alignment : Nat) (visited : Visited) :
    Option Visited :=
  if position % alignment = 0 ∧ position + size ≤ buffer.size
      ∧ visited.bytes + size ≤ maxBytes then
    some { visited with bytes := visited.bytes + size }
  else none

/-- Looks at a number on a place that suits its width. -/
def number (buffer : Array UInt8) (position width : Nat) (visited : Visited) : Option Visited :=
  visited.range buffer position width width

/-- Looks at a run of items behind their number. -/
def items (buffer : Array UInt8) (position size alignment : Nat) (visited : Visited) :
    Option Visited := do
  let visited ← visited.number buffer position 4
  visited.range buffer (position + 4) (Table.unsigned buffer position 4 * size) alignment

/-- Looks at a text, which must be UTF-8 with a zero behind it. -/
def text (buffer : Array UInt8) (position : Nat) (visited : Visited) : Option Visited := do
  let visited ← visited.items buffer position 1 1
  let length := Table.unsigned buffer position 4
  guard ((Utf8.decode? (Table.slice buffer (position + 4) length)).isSome
    ∧ buffer[position + 4 + length]? = some 0)
  return visited

/-- Follows the offset that is written somewhere. -/
def follow (buffer : Array UInt8) (position : Nat)
    (look : Nat → Visited → Option Visited) (visited : Visited) : Option Visited := do
  let visited ← visited.number buffer position 4
  look (Table.target buffer position) visited

/-- Looks at the beginning of a table and at the list of its offsets. -/
def opening (table : Table) (visited : Visited) : Option Visited := do
  let visited ← visited.number table.buffer table.position 4
  let place := table.position - Table.signed table.buffer table.position 4
  guard (0 ≤ place ∧ place < table.buffer.size)
  let visited ← visited.number table.buffer table.offsets 2
  let length := Table.unsigned table.buffer table.offsets 2
  guard ((table.offsets + length) % 2 = 0)
  let visited ← visited.range table.buffer table.offsets length 1
  guard (visited.tables < maxTables)
  return { visited with tables := visited.tables + 1 }

/-- Finds a field of a table, if it is there. -/
def field (table : Table) (slot : Nat) (visited : Visited) : Option (Option Nat × Visited) := do
  if slot < Table.unsigned table.buffer table.offsets 2 then
    let visited ← visited.number table.buffer (table.offsets + slot) 2
    return (table.field? slot, visited)
  else return (none, visited)

/-- Looks at a field of one slot, which may be left out unless it is required. -/
def single (table : Table) (required : Bool) (slot : Nat)
    (look : Nat → Visited → Option Visited) (visited : Visited) : Option Visited := do
  match ← visited.field table slot with
  | (some position, visited) => look position visited
  | (none, visited) => if required then none else some visited

/-- Looks at a part of a table, given a way to look at the tables within. -/
def part (within : Form → Nat → Visited → Option Visited) (table : Table) (required : Bool) :
    Part → Visited → Option Visited
  | .number slot width, visited =>
    visited.single table required slot fun position visited =>
      visited.number table.buffer position width
  | .block slot size, visited =>
    visited.single table required slot fun position visited =>
      visited.range table.buffer position size 1
  | .text slot, visited =>
    visited.single table required slot fun position visited =>
      visited.follow table.buffer position fun place visited => visited.text table.buffer place
  | .items slot size alignment, visited =>
    visited.single table required slot fun position visited =>
      visited.follow table.buffer position fun place visited =>
        visited.items table.buffer place size alignment
  | .table slot form, visited =>
    visited.single table required slot fun position visited =>
      visited.follow table.buffer position (within form)
  | .tables slot form, visited =>
    visited.single table required slot fun position visited =>
      visited.follow table.buffer position fun place visited => do
        let visited ← visited.items table.buffer place 4 4
        (List.range (Table.unsigned table.buffer place 4)).foldlM (fun visited index =>
          follow table.buffer (place + 4 + 4 * index) (within form) visited) visited
  | .choice key slot form, visited => do
    let (held, visited) ← visited.field table slot
    let (name, visited) ← visited.field table key
    match held, name with
    | none, none => if required then none else some visited
    | some position, some place =>
      let visited ← visited.number table.buffer place 1
      -- A number without a meaning says nothing on what it announces.
      match form (Table.unsigned table.buffer place 1) with
      | some form => visited.follow table.buffer position (within form)
      | none => some visited
    | _, _ => none
  | .required inner, visited => part within table true inner visited

/-- Looks at a table and all that lies in it, down to a number of levels. -/
def table (buffer : Array UInt8) : Nat → Form → Nat → Visited → Option Visited
  | 0, _, _, _ => none
  | levels + 1, form, position, visited => do
    let visited ← visited.opening ⟨buffer, position⟩
    form.parts.foldlM (fun visited part =>
      visited.part (table buffer levels) ⟨buffer, position⟩ false part) visited

end Visited

/-- Whether a buffer holds a message and nothing in it lies outside of the buffer. -/
def isMessage (buffer : Array UInt8) : Bool :=
  (Visited.follow buffer 0 (Visited.table buffer Visited.maxDepth .message) {}).isSome

end EngineClient.Arrow
