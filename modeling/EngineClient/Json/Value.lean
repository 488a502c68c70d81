import EngineClient.Decimal.Layout
import EngineClient.Keyed

/-! JSON documents as values. -/

namespace EngineClient

/-- A JSON number: whole numbers of sixty-four bits are exact, all others are doubles. -/
inductive Json.Number where
  /-- A whole number. -/
  | int (value : Int)
  /-- A finite double. -/
  | double (value : Double)
deriving DecidableEq, Repr

/-- A JSON document. -/
inductive Json where
  | null
  | bool (value : Bool)
  | number (value : Json.Number)
  | string (value : String)
  | array (items : List Json)
  /-- Named documents, with each name once and in ascending order. -/
  | object (fields : List (String × Json))
deriving Inhabited, Repr

namespace Json

/-- Named documents. -/
abbrev Fields := Keyed Json

/-- The object of some pairs, the last of one name taken. -/
def ofPairs (pairs : List (String × Json)) : Json :=
  .object (Keyed.ofPairs pairs)

/-- A whole number. -/
def int (value : Int) : Json :=
  .number (.int value)

/-- A natural number. -/
def nat (value : Nat) : Json :=
  .int value

/-- A double, or null where it is no finite number. -/
def ofDouble (value : Double) : Json :=
  if value.isFinite then .number (.double value) else .null

/-- The text of a number, the exponent of a double with its sign. -/
def Number.render : Number → String
  | .int value => toString value
  | .double value => NumberLayout.json.render .double value.bits.toNat

/-- A text, or null where there is none. -/
def ofText? : Option String → Json
  | some text => .string text
  | none => .null

/-- The document under a name of an object. -/
def get? (document : Json) (name : String) : Option Json :=
  match document with
  | .object fields => Keyed.get? fields name
  | _ => none

end Json

end EngineClient
