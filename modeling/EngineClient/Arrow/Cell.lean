import EngineClient.Address
import EngineClient.Arrow.Display
import EngineClient.Error
import EngineClient.Json.Value
import EngineClient.Platform

/-! Cells as JSON documents. -/

namespace EngineClient.Arrow

/-- The key of the note that names the meaning of a field's values. -/
def extensionKey : String := "ARROW:extension:name"

/-- The meanings that values have beyond their type. -/
inductive Meaning where
  /-- An internet address. -/
  | address
  /-- A range of internet addresses. -/
  | subnet
deriving DecidableEq, Repr

/-- The meaning of a field's values, under a name of today or of before. -/
def meaning? (notes : Notes) : Option Meaning :=
  match notes.get? extensionKey with
  | some "tenzir.ip" | some "vast.address" => some .address
  | some "tenzir.subnet" | some "vast.subnet" => some .subnet
  | _ => none

/-- An address that is stored in a value of the right type. -/
def addressOf? : DataType → Value → Option Address
  | .fixedBinary 16, .bytes bytes => Address.ofBytes? bytes
  | _, _ => none

/-- The first field of a name, with what is stored in its cell. -/
def memberNamed? (name : String) (fields : List Field) (members : List Slot) :
    Option (DataType × Value) :=
  ((List.zip fields members).find? fun pair => pair.1.name = name).map fun pair =>
    (pair.1.type, pair.2.value)

/-- A length of sixteen bytes at most that is stored in a value of the right type. -/
def lengthOf? : DataType × Value → Option UInt8
  | (.int ⟨false, .one⟩, .int length) => some (UInt8.ofNat length.toNat)
  | _ => none

/-- A range of addresses that is stored in a value of the right type. -/
def subnetOf? : DataType → Value → Option Subnet
  | .struct fields, .struct members => do
    let (type, value) ← memberNamed? "address" fields members
    let length ← lengthOf? (← memberNamed? "length" fields members)
    return ⟨← addressOf? type value, length⟩
  | _, _ => none

/-- The text of a value that has a meaning beyond its type. -/
def meaningText? (notes : Notes) (type : DataType) (value : Value) : Option String :=
  match meaning? notes with
  | some .address => (addressOf? type value).map Address.text
  | some .subnet => (subnetOf? type value).map Subnet.text
  | none => none

variable [Platform]

/-- The plain text of a value as a document. -/
def displayed (type : DataType) (value : Value) : Except Error Json :=
  if type.hasDisplay then .ok (.string (display type value).finish)
  else
    .error
      { kind := .protocol, message := some ("unrenderable " ++ type.describe ++ " value")
        causes := Platform.displayFaults type }

/-- A stored value that holds no other values as a document. -/
def scalarJson (type : DataType) (value : Value) : Except Error Json :=
  match type, value with
  | _, .bool value => .ok (.bool value)
  | .int _, .int value => .ok (Json.int value)
  | .float .single, .float bits => .ok (Json.ofDouble (.ofValue (FloatFormat.single.decode bits)))
  | .float .double, .float bits => .ok (Json.ofDouble ⟨UInt64.ofNat bits⟩)
  | .text .view, value => displayed (.text .view) value
  | .text _, .text text => .ok (.string text)
  | .binary .view, value => displayed (.binary .view) value
  | .binary _, .bytes bytes => .ok (.string bytes.toHex)
  | .fixedBinary _, .bytes bytes => .ok (.string bytes.toHex)
  | .timestamp unit zone, .int count =>
    match (Instant.ofUnits unit count).rfc3339? with
    | some text => .ok (.string text)
    | none => displayed (.timestamp unit zone) (.int count)
  | type, value => displayed type value

mutual

/-- A cell as a document, null where the cell is missing. -/
def cellJson : FieldOf DataType → SlotOf Value → Except Error Json
  | ⟨_, type, _, _, notes⟩, ⟨valid, value⟩ =>
    if !valid then .ok .null
    else match meaningText? notes type value with
      | some text => .ok (.string text)
      | none => valueJson type value

/-- A stored value as a document. -/
def valueJson : DataType → Value → Except Error Json
  | .list _ item, .list items => (itemsJson item items).map .array
  | .struct fields, .struct members => (membersJson fields members).map Json.ofPairs
  | type, value => scalarJson type value

/-- The cells of a list as documents. -/
def itemsJson (item : FieldOf DataType) : List (SlotOf Value) → Except Error (List Json)
  | [] => .ok []
  | slot :: rest => do return (← cellJson item slot) :: (← itemsJson item rest)

/-- Cells side by side as documents under the names of their fields. -/
def membersJson : List (FieldOf DataType) → List (SlotOf Value) →
    Except Error (List (String × Json))
  | field :: fields, slot :: rest => do
    return (field.name, ← cellJson field slot) :: (← membersJson fields rest)
  | _, _ => .ok []

end

/-- The row of a batch as named documents, the last column of one name taken. -/
def rowJson (schema : Schema) (row : List Slot) : Except Error Json.Fields :=
  (membersJson schema.fields row).map Keyed.ofPairs

end EngineClient.Arrow
