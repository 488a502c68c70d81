import EngineClient.Text.Utf8

/-! Tables in a buffer: records whose fields are found through a list of offsets. -/

namespace EngineClient.Arrow

/-- A table that lies in a buffer; numbers in it are written with the lowest byte first. -/
structure Table where
  /-- The bytes of all tables. -/
  buffer : Array UInt8
  /-- Where the table begins. -/
  position : Nat

namespace Table

/-- Some bytes of a buffer. -/
def slice (buffer : Array UInt8) (position count : Nat) : Bytes :=
  (buffer.extract position (position + count)).toList

/-- An unsigned number in a buffer. -/
def unsigned (buffer : Array UInt8) (position width : Nat) : Nat :=
  Bytes.toNat (slice buffer position width)

/-- A number in a buffer that may be negative. -/
def signed (buffer : Array UInt8) (position width : Nat) : Int :=
  Bytes.toInt (slice buffer position width)

/-- Where the offset leads that is written somewhere. -/
def target (buffer : Array UInt8) (position : Nat) : Nat :=
  position + unsigned buffer position 4

/-- The table that holds all others. -/
def root (buffer : Array UInt8) : Table :=
  ⟨buffer, target buffer 0⟩

/-- Where the list of the table's offsets begins. -/
def offsets (table : Table) : Nat :=
  (table.position - signed table.buffer table.position 4).toNat

/-- Where a field of the table is, if it is there. -/
def field? (table : Table) (slot : Nat) : Option Nat :=
  if slot < unsigned table.buffer table.offsets 2 then
    match unsigned table.buffer (table.offsets + slot) 2 with
    | 0 => none
    | offset => some (table.position + offset)
  else none

/-- A number in a field, or what stands for it where it is left out. -/
def int (table : Table) (slot width : Nat) (absent : Int := 0) : Int :=
  match table.field? slot with
  | some position => signed table.buffer position width
  | none => absent

/-- An unsigned number in a field, zero where it is left out. -/
def nat (table : Table) (slot width : Nat) : Nat :=
  match table.field? slot with
  | some position => unsigned table.buffer position width
  | none => 0

/-- A truth value in a field, false where it is left out. -/
def flag (table : Table) (slot : Nat) : Bool :=
  table.nat slot 1 ≠ 0

/-- The table in a field. -/
def table? (table : Table) (slot : Nat) : Option Table :=
  (table.field? slot).map fun position => ⟨table.buffer, target table.buffer position⟩

/-- Where the items in a field begin, each of a given size. -/
def items? (table : Table) (slot size : Nat) : Option (List Nat) :=
  (table.field? slot).map fun position =>
    let vector := target table.buffer position
    (List.range (unsigned table.buffer vector 4)).map fun index => vector + 4 + index * size

/-- The tables in a field. -/
def tables? (table : Table) (slot : Nat) : Option (List Table) :=
  (table.items? slot 4).map fun places =>
    places.map fun place => ⟨table.buffer, target table.buffer place⟩

/-- The numbers in a field. -/
def ints? (table : Table) (slot width : Nat) : Option (List Int) :=
  (table.items? slot width).map fun places =>
    places.map fun place => signed table.buffer place width

/-- The text in a field. -/
def text? (table : Table) (slot : Nat) : Option String :=
  (table.field? slot).bind fun position =>
    let vector := target table.buffer position
    Utf8.decode? (slice table.buffer (vector + 4) (unsigned table.buffer vector 4))

end Table

end EngineClient.Arrow
