import EngineClient.Arrow.DataType
import EngineClient.Arrow.Form

/-! Messages: schemas, dictionaries and batches, as their metadata tells them. -/

namespace EngineClient.Arrow

/-- The size of a column, as a batch tells it. -/
structure Node where
  /-- How many cells there are. -/
  length : Int
  /-- How many of them are missing. -/
  nulls : Int
deriving DecidableEq, Repr

/-- A part of a body. -/
structure Span where
  /-- Where it begins. -/
  offset : Int
  /-- How many bytes it has. -/
  length : Int
deriving DecidableEq, Repr

/-- Where the columns of a batch lie in its body. -/
structure BatchLayout where
  /-- How many rows there are. -/
  rows : Int64
  /-- The sizes of the columns, outer ones before those within. -/
  nodes : List Node
  /-- The buffers of the columns, in the same order. -/
  spans : List Span
  /-- The number of the compression in use, if there is one. -/
  codec : Option Int
  /-- How many further buffers the columns of views have. -/
  extra : List Int
deriving Repr

/-- The number of rows as one without a sign. -/
def BatchLayout.count (layout : BatchLayout) : Nat :=
  layout.rows.toUInt64.toNat

/-- What a message brings; what cannot be understood of it is `none`. -/
inductive Header where
  | empty
  | schema (schema : Option Schema)
  /-- The values of a dictionary, in place of or added to those before. -/
  | dictionary (id : Int) (added : Bool) (layout : Option BatchLayout)
  | batch (layout : Option BatchLayout)
  /-- Something that is not used here. -/
  | other
deriving Repr

/-- A message without its body. -/
structure Message where
  /-- The version of the format. -/
  version : Int
  /-- What the message brings. -/
  header : Header
  /-- How many bytes of body follow. -/
  bodyLength : Int
deriving Repr

namespace Message

/-- The pairs that have both a key and a value. -/
def notes (pairs : Option (List Table)) : Notes :=
  Keyed.ofPairs ((pairs.getD []).filterMap fun pair =>
    match pair.text? 4, pair.text? 6 with
    | some key, some value => some (key, value)
    | _, _ => none)

/-- The whole number type of a table. -/
def intType? (table : Table) : Option IntType :=
  let signed := table.flag 6
  match table.int 4 4 with
  | 8 => some ⟨signed, .one⟩
  | 16 => some ⟨signed, .two⟩
  | 32 => some ⟨signed, .four⟩
  | 64 => some ⟨signed, .eight⟩
  | _ => none

/-- The unit of a number. -/
def unit? : Int → Option TimeUnit
  | 0 => some .second
  | 1 => some .millisecond
  | 2 => some .microsecond
  | 3 => some .nanosecond
  | _ => none

/-- The type of times of day; seconds and milliseconds go with four bytes, smaller units with eight. -/
def timeType? (table : Table) : Option DataType := do
  let unit ← unit? (table.int 4 2 1)
  match unit, table.int 6 4 32 with
  | .second, 32 | .millisecond, 32 | .microsecond, 64 | .nanosecond, 64 => some (.time unit)
  | _, _ => none

/-- The decimal type of a table. -/
def decimalType? (table : Table) : Option DataType :=
  let precision := table.int 4 4
  let scale := table.int 6 4
  let width := table.int 8 4 128
  if 0 ≤ precision ∧ precision < 256 ∧ -128 ≤ scale ∧ scale < 128 ∧ (width = 128 ∨ width = 256) then
    some (.decimal (width = 256) precision.toNat scale)
  else none

/-- The type of alternatives: each has a code of its own, its place unless another is given. -/
def unionType? (table : Table) (members : List Field) : Option DataType := do
  let codes := (table.ints? 6 4).getD ((List.range members.length).map Int.ofNat)
  -- A code is one byte with a sign, and none may be used twice or be negative.
  let codes := (codes.take members.length).map fun code => code.bmod 256
  guard (codes.Nodup ∧ ∀ code ∈ codes, 0 ≤ code)
  let dense ← match table.int 4 2 with
    | 0 => some false
    | 1 => some true
    | _ => none
  return .union dense (codes.map Int.toNat) (members.take codes.length)

/-- The type of a number, of the table that belongs to it and of the fields within. -/
def plainType? (number : Nat) (table : Table) (children : Option (List Field)) :
    Option DataType :=
  match number with
  | 1 => some .null
  | 2 => (intType? table).map .int
  | 3 => match table.int 4 2 with
    | 0 => some (.float .half)
    | 1 => some (.float .single)
    | 2 => some (.float .double)
    | _ => none
  | 4 => some (.binary .small)
  | 5 => some (.text .small)
  | 6 => some .bool
  | 7 => decimalType? table
  | 8 => match table.int 4 2 1 with
    | 0 => some .date
    | 1 => some .dateMillis
    | _ => none
  | 9 => timeType? table
  | 10 => (unit? (table.int 4 2)).map fun unit => .timestamp unit (table.text? 6)
  | 11 => match table.int 4 2 with
    | 0 => some (.interval .yearMonth)
    | 1 => some (.interval .dayTime)
    | 2 => some (.interval .monthDayNano)
    | _ => none
  | 12 => match children with
    | some [item] => some (.list false item)
    | _ => none
  | 13 => some (.struct (children.getD []))
  | 14 => children.bind (unionType? table)
  | 15 => let size := table.int 4 4
    if 0 ≤ size then some (.fixedBinary size.toNat) else none
  | 16 => match children with
    | some [item] => let size := table.int 4 4
      if 0 ≤ size then some (.fixedList item size.toNat) else none
    | _ => none
  | 17 => match children with
    | some [entries] => some (.map entries (table.flag 4))
    | _ => none
  | 18 => (unit? (table.int 4 2 1)).map .duration
  | 19 => some (.binary .large)
  | 20 => some (.text .large)
  | 21 => match children with
    | some [item] => some (.list true item)
    | _ => none
  | 22 => match children with
    | some [ends, values] => some (.runs ends values)
    | _ => none
  | 23 => some (.binary .view)
  | 24 => some (.text .view)
  | _ => none

/-- The field of a table, with at most a number of levels of fields within. -/
def field? : Nat → Table → Option Field
  | 0, _ => none
  | levels + 1, table => do
    let name ← table.text? 4
    -- Fields that are missing altogether differ from an empty list of them.
    let children := match table.tables? 14 with
      | some tables => (tables.mapM (field? levels)).map some
      | none => some none
    let type ← plainType? (table.nat 8 1) (← table.table? 10) (← children)
    let nullable := table.flag 6
    let notes := notes (table.tables? 16)
    match table.table? 12 with
    | none => return ⟨name, type, nullable, none, notes⟩
    | some source =>
      -- The type of the table is that of the values, and the columns hold their places.
      let key ← intType? (← source.table? 6)
      return ⟨name, .dictionary key type, nullable, some ⟨source.int 4 8, source.flag 8⟩, notes⟩

/-- The schema of a table. -/
def schema? (table : Table) : Option Schema := do
  let fields ← (← table.tables? 6).mapM (field? Visited.maxDepth)
  return ⟨fields, notes (table.tables? 8)⟩

/-- The layout of a batch of a table. -/
def layout? (table : Table) : Option BatchLayout := do
  let nodes ← table.items? 6 16
  let spans ← table.items? 8 16
  let pair (place : Nat) : Int × Int :=
    (Table.signed table.buffer place 8, Table.signed table.buffer (place + 8) 8)
  return {
    rows := .ofInt (table.int 4 8)
    nodes := nodes.map fun place => ⟨(pair place).1, (pair place).2⟩
    spans := spans.map fun place => ⟨(pair place).1, (pair place).2⟩
    codec := (table.table? 10).map fun compression => compression.int 4 1
    extra := (table.ints? 12 8).getD [] }

/-- The header of a table, of the kind that a number tells. -/
def headerOf (number : Nat) (table : Table) : Header :=
  match number with
  | 0 => .empty
  | 1 => .schema (schema? table)
  | 2 => .dictionary (table.int 4 8) (table.flag 8) ((table.table? 6).bind layout?)
  | 3 => .batch (layout? table)
  | _ => .other

/-- The message of some metadata, if it is well formed. -/
def ofBytes? (metadata : Bytes) : Option Message :=
  let buffer := metadata.toArray
  if isMessage buffer then
    let table := Table.root buffer
    some {
      version := table.int 4 2
      header := match table.table? 8 with
        | some content => headerOf (table.nat 6 1) content
        | none => .empty
      bodyLength := table.int 10 8 }
  else none

end Message

end EngineClient.Arrow
