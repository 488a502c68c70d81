import EngineClient.Arrow.Message
import EngineClient.Arrow.Value

/-! Reading the columns of a batch out of the buffers that hold them. -/

namespace EngineClient.Arrow

/-- What is left of the parts of a batch while its columns are read. -/
structure Parts where
  /-- The sizes of columns. -/
  nodes : List Node
  /-- The buffers, `none` where one cannot be read. -/
  buffers : List (Option Bytes)
  /-- How many further buffers the columns of views have. -/
  extra : List Int

namespace Parts

/-- Takes the next size, which must not be negative. -/
def node (parts : Parts) : Option (Node × Parts) :=
  match parts.nodes with
  | [] => none
  | node :: rest => if 0 ≤ node.length then some (node, { parts with nodes := rest }) else none

/-- Takes the next buffer. -/
def buffer (parts : Parts) : Option (Bytes × Parts) :=
  match parts.buffers with
  | some bytes :: rest => some (bytes, { parts with buffers := rest })
  | _ => none

/-- Takes a number of buffers. -/
def takeBuffers (parts : Parts) : Nat → Option (List Bytes × Parts)
  | 0 => some ([], parts)
  | count + 1 => do
    let (first, parts) ← parts.buffer
    let (others, parts) ← parts.takeBuffers count
    return (first :: others, parts)

/-- Takes the next number of further buffers. -/
def extraCount (parts : Parts) : Option (Nat × Parts) :=
  match parts.extra with
  | [] => none
  | count :: rest => if 0 ≤ count then some (count.toNat, { parts with extra := rest }) else none

end Parts

/-- The bits of a byte, the lowest first. -/
def bitsOf (byte : UInt8) : List Bool :=
  (List.range 8).map fun place => byte.toNat.testBit place

/-- The first bits of a buffer, if it has so many. -/
def bits? (count : Nat) (buffer : Bytes) : Option (List Bool) :=
  if count ≤ 8 * buffer.length then some ((buffer.flatMap bitsOf).take count) else none

/-- Which cells of a column are there; the bits are looked at only if some are said to be missing. -/
def validity? (node : Node) (buffer : Bytes) : Option (List Bool) :=
  if 0 < node.nulls then bits? node.length.toNat buffer
  else some (List.replicate node.length.toNat true)

/-- A buffer cut into a number of pieces of one size. -/
def pieces (size : Nat) : Nat → Bytes → List Bytes
  | 0, _ => []
  | count + 1, buffer => buffer.take size :: pieces size count (buffer.drop size)

/-- A buffer cut into a number of pieces of one size, if it is long enough. -/
def pieces? (size count : Nat) (buffer : Bytes) : Option (List Bytes) :=
  if size * count ≤ buffer.length then some (pieces size count buffer) else none

/-- The stretches of a list between one place and the next. -/
def stretches {α : Type} (start : Nat) : List Nat → List α → List (List α)
  | [], _ => []
  | stop :: rest, items => items.take (stop - start) :: stretches stop rest (items.drop (stop - start))

/-- Whether places never go back. -/
def ascending : List Nat → Bool
  | first :: second :: rest => first ≤ second && ascending (second :: rest)
  | _ => true

/-- Reads places, one more than there are cells, none of which lies beyond a limit. -/
def places? (width count limit : Nat) (buffer : Bytes) : Option (List Nat) := do
  -- A column without cells need not write the one place that it has.
  if count = 0 ∧ buffer.isEmpty then return []
  let numbers := (← pieces? width (count + 1) buffer).map Bytes.toInt
  guard (numbers.all fun number => 0 ≤ number)
  let places := numbers.map Int.toNat
  guard (ascending places && (places.getLast?.getD 0) ≤ limit)
  return places

/-- The stretches of a list that places mark. -/
def marked {α : Type} (items : List α) : List Nat → List (List α)
  | [] => []
  | start :: rest => stretches start rest (items.drop start)

/-- The width of the places of a layout. -/
def placeWidth (large : Bool) : Nat :=
  if large then 8 else 4

/-- Whether a character may begin at a place of a buffer, its end included. -/
def isBoundary (values : Array UInt8) (place : Nat) : Bool :=
  match values[place]? with
  | some byte => byte.toNat / 64 ≠ 2
  | none => true

/-- Reads texts that lie one behind the other; where all of the buffer is text, none may begin or
end inside a character, not even an empty one. -/
def texts? (places : List Nat) (values : Bytes) : Option (List String) := do
  let texts ← (marked values places).mapM Utf8.decode?
  let array := values.toArray
  -- A single place marks no text.
  guard (places.length < 2 || (Utf8.decode? values).isNone || places.all (isBoundary array))
  return texts

/-- Reads what a view stands for: up to twelve bytes in place, or a stretch of a further buffer. -/
def viewed? (buffers : Array (Array UInt8)) (view : Bytes) : Option Bytes := do
  let length := Bytes.toNat (view.take 4)
  if length ≤ 12 then
    guard ((view.drop (4 + length)).all (· = 0))
    return (view.drop 4).take length
  else
    let buffer ← buffers[Bytes.toNat ((view.drop 8).take 4)]?
    let start := Bytes.toNat ((view.drop 12).take 4)
    guard (start + length ≤ buffer.size)
    let bytes := (buffer.extract start (start + length)).toList
    guard (bytes.take 4 = (view.drop 4).take 4)
    return bytes

/-- How many bytes a cell of a type takes and what they mean, for types of one size. -/
def fixed? : DataType → Option (Nat × (Bytes → Value))
  | .int type =>
    some (type.bytes, fun bytes => .int (if type.signed then bytes.toInt else bytes.toNat))
  | .float .half => some (2, fun bytes => .float bytes.toNat)
  | .float .single => some (4, fun bytes => .float bytes.toNat)
  | .float .double => some (8, fun bytes => .float bytes.toNat)
  | .fixedBinary size => some (size, .bytes)
  | .decimal wide _ _ => some (if wide then 32 else 16, fun bytes => .int bytes.toInt)
  | .date => some (4, fun bytes => .int bytes.toInt)
  | .dateMillis => some (8, fun bytes => .int bytes.toInt)
  | .time .second | .time .millisecond => some (4, fun bytes => .int bytes.toInt)
  | .time .microsecond | .time .nanosecond => some (8, fun bytes => .int bytes.toInt)
  | .timestamp _ _ => some (8, fun bytes => .int bytes.toInt)
  | .duration _ => some (8, fun bytes => .int bytes.toInt)
  | .interval .yearMonth => some (4, fun bytes => .int bytes.toInt)
  | .interval .dayTime =>
    some (8, fun bytes => .dayTime (Bytes.toInt (bytes.take 4)) (Bytes.toInt (bytes.drop 4)))
  | .interval .monthDayNano =>
    some (16, fun bytes => .monthDayNano (Bytes.toInt (bytes.take 4))
      (Bytes.toInt ((bytes.drop 4).take 4)) (Bytes.toInt (bytes.drop 8)))
  | _ => none

/-- Cells made of which of them are there and of what is stored in them. -/
def slots (valid : List Bool) (values : List Value) : Column :=
  List.zipWith SlotOf.mk valid values

/-- Cells of a column that misses none. -/
def present (values : List Value) : Column :=
  values.map fun value => ⟨true, value⟩

/-- Whether all cells of a column are there. -/
def complete (column : Column) : Bool :=
  column.all fun slot => slot.valid

/-- Reads a column of cells of one size. -/
def fixedColumn (size : Nat) (read : Bytes → Value) (parts : Parts) : Option (Column × Parts) := do
  let (node, parts) ← parts.node
  let (bitmap, parts) ← parts.buffer
  let (values, parts) ← parts.buffer
  let values ← pieces? size node.length.toNat values
  return (slots (← validity? node bitmap) (values.map read), parts)

/-- Reads a column of truth values. -/
def boolColumn (parts : Parts) : Option (Column × Parts) := do
  let (node, parts) ← parts.node
  let (bitmap, parts) ← parts.buffer
  let (values, parts) ← parts.buffer
  let values ← bits? node.length.toNat values
  return (slots (← validity? node bitmap) (values.map .bool), parts)

/-- Reads a column without values. -/
def nullColumn (parts : Parts) : Option (Column × Parts) := do
  let (node, parts) ← parts.node
  guard (node.length = node.nulls)
  return (present (List.replicate node.length.toNat .nothing), parts)

/-- Reads a column of texts or byte strings. -/
def stringColumn (text : Bool) (layout : Layout) (parts : Parts) : Option (Column × Parts) := do
  match layout with
  | .view =>
    let (extra, parts) ← parts.extraCount
    let (bitmap, parts) ← parts.buffer
    let (views, parts) ← parts.buffer
    let (buffers, parts) ← parts.takeBuffers extra
    let (node, parts) ← parts.node
    let buffers := (buffers.map List.toArray).toArray
    let strings ← (← pieces? 16 node.length.toNat views).mapM (viewed? buffers)
    let values ← if text then strings.mapM fun bytes => (Utf8.decode? bytes).map .text
      else some (strings.map .bytes)
    return (slots (← validity? node bitmap) values, parts)
  | layout =>
    let (node, parts) ← parts.node
    let (bitmap, parts) ← parts.buffer
    let (buffer, parts) ← parts.buffer
    let (values, parts) ← parts.buffer
    let width := placeWidth (layout = .large)
    let places ← places? width node.length.toNat values.length buffer
    let values ← if text then (texts? places values).map fun texts => texts.map .text
      else some ((marked values places).map .bytes)
    return (slots (← validity? node bitmap) values, parts)

/-- Whether the items of lists are there, unless they may be missing or belong to a missing list. -/
def itemsComplete (item : Field) (valid : List Bool) (lists : List Column) : Bool :=
  item.nullable || (List.zipWith (fun valid items => !valid || complete items) valid lists).all id

/-- The cells of lists of one size, if there are enough items. -/
def fixedLists? (item : Field) (size : Nat) (valid : List Bool) (items : Column) : Option Column := do
  let places := (List.range (valid.length + 1)).map (size * ·)
  guard (size * valid.length ≤ items.length)
  let lists := marked items places
  -- Items behind the last list count where no list is missing.
  guard (itemsComplete item valid lists && (item.nullable || !valid.all id || complete items))
  return slots valid (lists.map .list)

/-- The cells of columns side by side, if they are of one length. -/
def structs? (fields : List Field) (valid : List Bool) (columns : List Column) : Option Column := do
  guard (columns.all fun column => column.length = valid.length)
  -- A column that misses no cell of its own may do so where the whole is missing.
  let whole := (List.zip fields columns).all fun (field, column) => field.nullable ||
    (List.zipWith (fun valid slot => !valid || !slotIsNull slot) valid column).all id
  guard whole
  return slots valid ((rowsOf valid.length columns).map .struct)

/-- The cells of alternatives: each code chooses a member, and a place tells which of its cells. -/
def choices? (codes : List Nat) (members : List Column) (choices : List (Nat × Nat)) :
    Option Column := do
  let arrays := (members.map List.toArray).toArray
  let values ← choices.mapM fun (code, place) => do
    let member := codes.idxOf code
    let cells ← arrays[member]?
    return .choice member (← cells[place]?)
  return present values

/-- The cells of runs, each of which reaches from the end of the one before to its own. -/
def runs? (count : Nat) (reached : Int) : List Slot → Column → Option Column
  | ⟨true, .int stop⟩ :: ends, value :: values => do
    guard (reached < stop)
    let rest ← runs? count stop ends values
    return List.replicate ((min stop count) - reached).toNat ⟨true, .shared value⟩ ++ rest
  | [], [] => if (count : Int) ≤ reached then some [] else none
  | _, _ => none

/-- The cells of keys into a column of values. -/
def lookups? (values : Column) (keys : Column) : Option Column := do
  let array := values.toArray
  keys.mapM fun key => match key with
    | ⟨true, .int place⟩ =>
      if 0 ≤ place then (array[place.toNat]?).map fun slot => ⟨true, .shared slot⟩ else none
    | _ => some ⟨false, .shared ⟨false, .nothing⟩⟩

/-- Whether the entries of a map may be of a type: a key and a value side by side. -/
def isEntry : DataType → Bool
  | .struct [_, _] => true
  | _ => false

/-- Whether the ends of runs may be of a type. -/
def isRunEnd : DataType → Bool
  | .int type => type.signed && type.width ≠ .one
  | _ => false

/-- What is known before a batch is read. -/
structure Surroundings where
  /-- The version of the format. -/
  version : Int
  /-- The values of dictionaries, by number. -/
  dictionaries : List (Int × Column)

/-- The version from which on alternatives have no bits that tell which of them are there. -/
def plainUnionVersion : Int := 4

mutual

/-- Reads the column of a field and all columns within. -/
def fieldColumn (known : Surroundings) : FieldOf DataType → Parts → Option (Column × Parts)
  | ⟨_, type, _, dictionary, _⟩, parts => typeColumn known dictionary type parts

/-- Reads the columns of fields. -/
def fieldColumns (known : Surroundings) :
    List (FieldOf DataType) → Parts → Option (List Column × Parts)
  | [], parts => some ([], parts)
  | field :: rest, parts => do
    let (column, parts) ← fieldColumn known field parts
    let (columns, parts) ← fieldColumns known rest parts
    return (column :: columns, parts)

/-- Reads a column of some type, whose values may be sent apart. -/
def typeColumn (known : Surroundings) (source : Option DictionaryRef) :
    DataType → Parts → Option (Column × Parts)
  | .null, parts => nullColumn parts
  | .bool, parts => boolColumn parts
  | .binary layout, parts => stringColumn false layout parts
  | .text layout, parts => stringColumn true layout parts
  | .list large item, parts => do
    let (node, parts) ← parts.node
    let (bitmap, parts) ← parts.buffer
    let (buffer, parts) ← parts.buffer
    let (items, parts) ← fieldColumn known item parts
    let places ← places? (placeWidth large) node.length.toNat items.length buffer
    guard (item.nullable || complete items)
    return (slots (← validity? node bitmap) ((marked items places).map .list), parts)
  | .map entries _, parts => do
    let (node, parts) ← parts.node
    let (bitmap, parts) ← parts.buffer
    let (buffer, parts) ← parts.buffer
    let (items, parts) ← fieldColumn known entries parts
    let places ← places? 4 node.length.toNat items.length buffer
    guard (entries.nullable || complete items)
    guard (isEntry entries.type)
    return (slots (← validity? node bitmap) ((marked items places).map .list), parts)
  | .fixedList item size, parts => do
    let (node, parts) ← parts.node
    let (bitmap, parts) ← parts.buffer
    let (items, parts) ← fieldColumn known item parts
    return (← fixedLists? item size (← validity? node bitmap) items, parts)
  | .struct fields, parts => do
    let (node, parts) ← parts.node
    let (bitmap, parts) ← parts.buffer
    let (columns, parts) ← fieldColumns known fields parts
    -- Where no cell is missing, the columns within tell how many there are.
    let valid ← match columns with
      | column :: _ =>
        if 0 < node.nulls then validity? node bitmap
        else some (List.replicate column.length true)
      | [] => validity? node bitmap
    return (← structs? fields valid columns, parts)
  | .union dense codes members, parts => do
    let (node, parts) ← parts.node
    let parts ← if known.version < plainUnionVersion then (parts.buffer).map Prod.snd
      else some parts
    let (buffer, parts) ← parts.buffer
    let count := node.length.toNat
    let chosen := (← pieces? 1 count buffer).map Bytes.toNat
    let (places, parts) ← if dense then do
        let (buffer, parts) ← parts.buffer
        let places := (← pieces? 4 count buffer).map Bytes.toInt
        guard (places.all fun place => 0 ≤ place)
        some (places.map Int.toNat, parts)
      else some (List.range count, parts)
    let (columns, parts) ← fieldColumns known members parts
    guard (dense || columns.all fun column => column.length = count)
    return (← choices? codes columns (List.zip chosen places), parts)
  | .dictionary key _, parts => do
    let (keys, parts) ← fixedColumn key.bytes
      (fun bytes => .int (if key.signed then bytes.toInt else bytes.toNat)) parts
    let values ← known.dictionaries.lookup (← source).id
    return (← lookups? values keys, parts)
  | .runs ends values, parts => do
    let (node, parts) ← parts.node
    let (stops, parts) ← fieldColumn known ends parts
    let (cells, parts) ← fieldColumn known values parts
    guard (isRunEnd ends.type)
    return (← runs? node.length.toNat 0 stops cells, parts)
  | type, parts => do
    let (size, read) ← fixed? type
    fixedColumn size read parts

end

end EngineClient.Arrow
