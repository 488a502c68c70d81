import EngineClient.Arrow.Value
import EngineClient.Decimal.Layout
import EngineClient.Time.Span

/-! Cells as plain text, for types that have no form of their own in documents. -/

namespace EngineClient.Arrow

/-- A text, which may break off for a reason. -/
structure Written where
  /-- What was written. -/
  text : String
  /-- Why it breaks off. -/
  fault : Option String := none
deriving DecidableEq, Repr

namespace Written

/-- One text behind another, unless the first breaks off. -/
def append (first second : Written) : Written :=
  match first.fault with
  | some _ => first
  | none => ⟨first.text ++ second.text, second.fault⟩

/-- Texts are put together one after another. -/
instance : Append Written := ⟨append⟩

/-- A text that does not break off. -/
def whole (text : String) : Written := ⟨text, none⟩

/-- The text, and the reason if it breaks off. -/
def finish (written : Written) : String :=
  match written.fault with
  | some fault => written.text ++ "ERROR: " ++ fault
  | none => written.text

end Written

mutual

/-- Whether cells of a type have a plain text: only the zone of instants may prevent it. -/
def DataType.hasDisplay : DataType → Bool
  | .timestamp _ (some zone) => (zoneOffset? zone).isSome
  | .list _ item => fieldHasDisplay item
  | .fixedList item _ => fieldHasDisplay item
  | .struct fields => fieldsHaveDisplay fields
  | .map entries _ => fieldHasDisplay entries
  | .union _ _ members => fieldsHaveDisplay members
  | .dictionary _ value => value.hasDisplay
  | .runs _ values => fieldHasDisplay values
  | _ => true

/-- Whether cells of a field have a plain text. -/
def fieldHasDisplay : FieldOf DataType → Bool
  | ⟨_, type, _, _, _⟩ => type.hasDisplay

/-- Whether cells of all fields have a plain text. -/
def fieldsHaveDisplay : List (FieldOf DataType) → Bool
  | [] => true
  | field :: rest => fieldHasDisplay field && fieldsHaveDisplay rest

end

/-- A text that breaks off because a count has no meaning. -/
def unconverted (count : Int) (sort : String) (type : DataType) : Written :=
  ⟨"", some ("Cast error: Failed to convert " ++ toString count ++ " to " ++ sort ++ " for "
    ++ type.describe)⟩

/-- A decimal number; of more digits than the precision allows the first are kept. -/
def decimalText (precision : Nat) (scale : Int) (value : Int) : String :=
  let sign := if value < 0 then "-" else ""
  let digits := (toString value.natAbs).toList
  let kept := digits.take precision
  match scale with
  | .negSucc places => sign ++ String.ofList kept ++ NumberLayout.zeros (places + 1)
  | .ofNat 0 => sign ++ String.ofList kept
  | .ofNat places =>
    if places < digits.length then
      let whole := kept.length - places
      sign ++ String.ofList (kept.take whole) ++ "." ++ String.ofList (kept.drop whole)
    else sign ++ "0." ++ NumberLayout.zeros (places - digits.length) ++ String.ofList digits

/-- A time of day; seconds are counted modulo thirty-two bits. -/
def timeOfDay (unit : TimeUnit) (count : Int) : Written :=
  let nanoseconds := count * unit.nanoseconds
  let seconds := (nanoseconds / 1000000000 % (Nat.pow 2 32 : Nat)).toNat
  if seconds < 86400 then
    .whole (Instant.timeText seconds (nanoseconds % 1000000000).toNat)
  else unconverted count "temporal" (.time unit)

/-- An instant in a zone, or without one. -/
def instantText (unit : TimeUnit) (zone : Option String) (count : Int) : Written :=
  let instant := Instant.ofUnits unit count
  if Instant.hasText instant.days then
    match zone.bind zoneOffset? with
    | some ahead => .whole (instant.zonedText ahead)
    | none => .whole instant.plainText
  else unconverted count "datetime" (.timestamp unit zone)

/-- The text of a stored value that holds no other values. -/
def scalarText : DataType → Value → Written
  | _, .bool value => .whole (truth value)
  | .decimal _ precision scale, .int value => .whole (decimalText precision scale value)
  | .date, .int days =>
    if Instant.hasText days then .whole (Instant.dateText days)
    else unconverted days "temporal" .date
  | .dateMillis, .int count =>
    let instant := Instant.ofUnits .millisecond count
    if Instant.hasText instant.days then .whole instant.plainText
    else unconverted count "temporal" .dateMillis
  | .time unit, .int count => timeOfDay unit count
  | .timestamp unit zone, .int count => instantText unit zone count
  | .duration unit, .int count => .whole (Span.iso8601 (count * unit.nanoseconds))
  | .interval _, .int months => .whole (Span.yearMonth months)
  | _, .int value => .whole (toString value)
  | .float .half, .float bits => .whole (NumberLayout.renderHalf bits)
  | .float .single, .float bits => .whole (NumberLayout.single.render .single bits)
  | _, .float bits => .whole (NumberLayout.double.render .double bits)
  | _, .bytes bytes => .whole bytes.toHex
  | _, .text text => .whole text
  | _, .dayTime days milliseconds => .whole (Span.dayTime days milliseconds)
  | _, .monthDayNano months days nanoseconds =>
    .whole (Span.monthDayNano months days nanoseconds)
  | _, _ => .whole ""

/-- The types of the keys and of the values of a map with some entries. -/
def entryTypes : DataType → DataType × DataType
  | .struct [key, value] => (key.type, value.type)
  | _ => (.null, .null)

/-- The name and the type of a member of alternatives. -/
def memberOf (members : List Field) (place : Nat) : String × DataType :=
  match members[place]? with
  | some member => (member.name, member.type)
  | none => ("", .null)

mutual

/-- The text of a cell, empty where the cell is missing. -/
def displaySlot (type : DataType) : SlotOf Value → Written
  | ⟨valid, value⟩ => if valid then display type value else .whole ""

/-- The text of a stored value. -/
def display (type : DataType) : Value → Written
  | .list items =>
    match type with
    | .list _ item => .whole "[" ++ displayItems item.type true items ++ .whole "]"
    | .fixedList item _ => .whole "[" ++ displayItems item.type true items ++ .whole "]"
    | .map entries _ => .whole "\x7b" ++ displayEntries (entryTypes entries.type) true items
      ++ .whole "\x7d"
    | _ => .whole ""
  | .struct members =>
    match type with
    | .struct fields => .whole "\x7b" ++ displayMembers true fields members ++ .whole "\x7d"
    | _ => .whole ""
  | .choice place slot =>
    match type with
    | .union _ _ members =>
      let (name, type) := memberOf members place
      .whole ("\x7b" ++ name ++ "=") ++ displaySlot type slot ++ .whole "\x7d"
    | _ => .whole ""
  | .shared slot =>
    match type with
    | .dictionary _ value => displaySlot value slot
    | .runs _ values => displaySlot values.type slot
    | _ => .whole ""
  | value => scalarText type value

/-- The cells of a list with commas between them. -/
def displayItems (type : DataType) (first : Bool) : List (SlotOf Value) → Written
  | [] => .whole ""
  | item :: rest =>
    .whole (if first then "" else ", ") ++ displaySlot type item ++ displayItems type false rest

/-- Named cells with commas between them. -/
def displayMembers (first : Bool) : List Field → List (SlotOf Value) → Written
  | field :: fields, member :: rest =>
    .whole ((if first then "" else ", ") ++ field.name ++ ": ") ++ displaySlot field.type member
      ++ displayMembers false fields rest
  | _, _ => .whole ""

/-- The entries of a map with commas between them. -/
def displayEntries (types : DataType × DataType) (first : Bool) : List (SlotOf Value) → Written
  | [] => .whole ""
  | ⟨_, entry⟩ :: rest =>
    .whole (if first then "" else ", ") ++ displayEntry types entry
      ++ displayEntries types false rest

/-- An entry of a map. -/
def displayEntry (types : DataType × DataType) : Value → Written
  | .struct [key, value] =>
    displaySlot types.1 key ++ .whole ": " ++ displaySlot types.2 value
  | _ => .whole ""

end

end EngineClient.Arrow
