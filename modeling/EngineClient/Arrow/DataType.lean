import EngineClient.Keyed
import EngineClient.Text.Quoted
import EngineClient.Time.Instant

/-! The types of columns, how they are told apart and how they are named in reports. -/

namespace EngineClient.Arrow

/-- Notes attached to a schema or a field. -/
abbrev Notes := Keyed String

/-- How many bytes a whole number takes. -/
inductive IntWidth where
  /-- One byte. -/
  | one
  /-- Two bytes. -/
  | two
  /-- Four bytes. -/
  | four
  /-- Eight bytes. -/
  | eight
deriving DecidableEq, Repr

/-- The width as a number. -/
def IntWidth.bytes : IntWidth → Nat
  | .one => 1
  | .two => 2
  | .four => 4
  | .eight => 8

/-- A type of whole numbers. -/
structure IntType where
  /-- Whether there are negative ones. -/
  signed : Bool
  /-- How many bytes one takes. -/
  width : IntWidth
deriving DecidableEq, Repr

/-- The floating-point formats of columns. -/
inductive FloatWidth where
  /-- Sixteen bits. -/
  | half
  /-- Thirty-two bits. -/
  | single
  /-- Sixty-four bits. -/
  | double
deriving DecidableEq, Repr

/-- The ways to count calendar spans. -/
inductive IntervalUnit where
  /-- Months only. -/
  | yearMonth
  /-- Days and milliseconds. -/
  | dayTime
  /-- Months, days and nanoseconds. -/
  | monthDayNano
deriving DecidableEq, Repr

/-- How the texts or byte strings of a column are laid out. -/
inductive Layout where
  /-- One behind the other, with places of four bytes. -/
  | small
  /-- One behind the other, with places of eight bytes. -/
  | large
  /-- Short ones in place, and long ones anywhere in further buffers. -/
  | view
deriving DecidableEq, Repr

/-- Where the values of a dictionary-encoded column come from. -/
structure DictionaryRef where
  /-- The number under which the values are sent. -/
  id : Int
  /-- Whether the order of the values means something. -/
  ordered : Bool
deriving DecidableEq, Repr

/-- A named column of some type. -/
structure FieldOf (τ : Type) where
  /-- The name. -/
  name : String
  /-- The type of the column. -/
  type : τ
  /-- Whether cells may be missing. -/
  nullable : Bool
  /-- Where the values come from, if they are sent apart. -/
  dictionary : Option DictionaryRef
  /-- Notes on the column. -/
  notes : Notes
deriving Repr

/-- The type of a column. -/
inductive DataType where
  /-- No values at all. -/
  | null
  /-- Truth values. -/
  | bool
  /-- Whole numbers. -/
  | int (type : IntType)
  /-- Floating-point numbers. -/
  | float (width : FloatWidth)
  /-- Byte strings. -/
  | binary (layout : Layout)
  /-- Texts. -/
  | text (layout : Layout)
  /-- Byte strings of one size. -/
  | fixedBinary (size : Nat)
  /-- Decimal numbers of sixteen or of thirty-two bytes. -/
  | decimal (wide : Bool) (precision : Nat) (scale : Int)
  /-- Days since the first of January 1970. -/
  | date
  /-- Milliseconds since the first of January 1970, taken as a date. -/
  | dateMillis
  /-- Times of day; seconds and milliseconds take four bytes, smaller units eight. -/
  | time (unit : TimeUnit)
  /-- Instants, shown in a zone if there is one. -/
  | timestamp (unit : TimeUnit) (zone : Option String)
  /-- Spans of time. -/
  | duration (unit : TimeUnit)
  /-- Calendar spans. -/
  | interval (unit : IntervalUnit)
  /-- Lists, with places of four or of eight bytes. -/
  | list (large : Bool) (item : FieldOf DataType)
  /-- Lists of one size. -/
  | fixedList (item : FieldOf DataType) (size : Nat)
  /-- Several columns side by side. -/
  | struct (fields : List (FieldOf DataType))
  /-- Lists of entries with a key and a value. -/
  | map (entries : FieldOf DataType) (sorted : Bool)
  /-- One of several columns, chosen by a code; dense members hold only their own cells. -/
  | union (dense : Bool) (codes : List Nat) (members : List (FieldOf DataType))
  /-- Places in a column of values that is sent apart. -/
  | dictionary (key : IntType) (value : DataType)
  /-- Runs of equal cells, each with its end and its value. -/
  | runs (ends values : FieldOf DataType)
deriving Repr, Inhabited

/-- A named column. -/
abbrev Field := FieldOf DataType

/-- The columns of a batch. -/
structure Schema where
  /-- The columns in order. -/
  fields : List Field
  /-- Notes on the batch. -/
  notes : Notes
deriving Repr

/-- The bytes that a number of the type takes. -/
def IntType.bytes (type : IntType) : Nat :=
  type.width.bytes

/-- The name of the type. -/
def IntType.describe (type : IntType) : String :=
  (if type.signed then "Int" else "UInt") ++ toString (8 * type.bytes)

/-- The name of the unit. -/
def unitName : TimeUnit → String
  | .second => "Second"
  | .millisecond => "Millisecond"
  | .microsecond => "Microsecond"
  | .nanosecond => "Nanosecond"

/-- The name of the unit. -/
def IntervalUnit.describe : IntervalUnit → String
  | .yearMonth => "YearMonth"
  | .dayTime => "DayTime"
  | .monthDayNano => "MonthDayNano"

/-- What a layout puts before and behind the name of a type. -/
def Layout.decorate (name : String) : Layout → String
  | .small => name
  | .large => "Large" ++ name
  | .view => name ++ "View"

/-- Notes in curly braces, as reports show them. -/
def Notes.describe (notes : Notes) : String :=
  "\x7b" ++ ", ".intercalate (notes.map fun note =>
    Quoted.quote note.1 ++ ": " ++ Quoted.quote note.2) ++ "\x7d"

/-- A truth value in words. -/
def truth (value : Bool) : String :=
  if value then "true" else "false"

mutual

/-- The type as reports name it. -/
def DataType.describe : DataType → String
  | .null => "Null"
  | .bool => "Boolean"
  | .int type => type.describe
  | .float .half => "Float16"
  | .float .single => "Float32"
  | .float .double => "Float64"
  | .binary layout => layout.decorate "Binary"
  | .text layout => layout.decorate "Utf8"
  | .fixedBinary size => "FixedSizeBinary(" ++ toString size ++ ")"
  | .decimal wide precision scale =>
    (if wide then "Decimal256(" else "Decimal128(") ++ toString precision ++ ", " ++ toString scale
      ++ ")"
  | .date => "Date32"
  | .dateMillis => "Date64"
  | .time unit =>
    (match unit with
      | .second | .millisecond => "Time32("
      | .microsecond | .nanosecond => "Time64(") ++ unitName unit ++ ")"
  | .timestamp unit zone =>
    "Timestamp(" ++ unitName unit ++ ", " ++ (match zone with
      | some zone => "Some(" ++ Quoted.quote zone ++ ")"
      | none => "None") ++ ")"
  | .duration unit => "Duration(" ++ unitName unit ++ ")"
  | .interval unit => "Interval(" ++ unit.describe ++ ")"
  | .list large item => (if large then "LargeList(" else "List(") ++ describeField item ++ ")"
  | .fixedList item size =>
    "FixedSizeList(" ++ describeField item ++ ", " ++ toString size ++ ")"
  | .struct fields => "Struct([" ++ ", ".intercalate (describeFields fields) ++ "])"
  | .map entries sorted => "Map(" ++ describeField entries ++ ", " ++ truth sorted ++ ")"
  | .union dense codes members =>
    let pairs := List.zipWith (fun code member => "(" ++ toString code ++ ", " ++ member ++ ")")
      codes (describeFields members)
    "Union([" ++ ", ".intercalate pairs ++ "], " ++ (if dense then "Dense" else "Sparse") ++ ")"
  | .dictionary key value => "Dictionary(" ++ key.describe ++ ", " ++ value.describe ++ ")"
  | .runs ends values =>
    "RunEndEncoded(" ++ describeField ends ++ ", " ++ describeField values ++ ")"

/-- The field as reports name it. -/
def describeField : FieldOf DataType → String
  | ⟨name, type, nullable, dictionary, notes⟩ =>
    let (id, ordered) := match dictionary with
      | some source => (source.id, source.ordered)
      | none => (0, false)
    "Field \x7b name: " ++ Quoted.quote name ++ ", data_type: " ++ type.describe
      ++ ", nullable: " ++ truth nullable ++ ", dict_id: " ++ toString id
      ++ ", dict_is_ordered: " ++ truth ordered ++ ", metadata: " ++ notes.describe ++ " \x7d"

/-- The fields as reports name them. -/
def describeFields : List (FieldOf DataType) → List String
  | [] => []
  | field :: rest => describeField field :: describeFields rest

end

mutual

/-- Whether two types are the same, all that belongs to their fields included. -/
def DataType.same : DataType → DataType → Bool
  | .null, .null => true
  | .bool, .bool => true
  | .int type, .int other => type = other
  | .float width, .float other => width = other
  | .binary layout, .binary other => layout = other
  | .text layout, .text other => layout = other
  | .fixedBinary size, .fixedBinary other => size = other
  | .decimal wide precision scale, .decimal wide' precision' scale' =>
    wide = wide' && precision = precision' && scale = scale'
  | .date, .date => true
  | .dateMillis, .dateMillis => true
  | .time unit, .time other => unit = other
  | .timestamp unit zone, .timestamp unit' zone' => unit = unit' && zone = zone'
  | .duration unit, .duration other => unit = other
  | .interval unit, .interval other => unit = other
  | .list large item, .list large' item' => large = large' && sameField item item'
  | .fixedList item size, .fixedList item' size' => size = size' && sameField item item'
  | .struct fields, .struct others => sameFields fields others
  | .map entries sorted, .map entries' sorted' => sorted = sorted' && sameField entries entries'
  | .union dense codes members, .union dense' codes' members' =>
    dense = dense' && codes = codes' && sameFields members members'
  | .dictionary key value, .dictionary key' value' => key = key' && value.same value'
  | .runs ends values, .runs ends' values' => sameField ends ends' && sameField values values'
  | _, _ => false

/-- Whether two fields are the same; where the values of a dictionary come from does not matter. -/
def sameField : FieldOf DataType → FieldOf DataType → Bool
  | ⟨name, type, nullable, _, notes⟩, other =>
    name = other.name && type.same other.type && nullable = other.nullable && notes = other.notes

/-- Whether two rows of fields are the same. -/
def sameFields : List (FieldOf DataType) → List (FieldOf DataType) → Bool
  | [], [] => true
  | field :: rest, other :: others => sameField field other && sameFields rest others
  | _, _ => false

end

end EngineClient.Arrow
