import EngineClient.Json.Value

/-! Events as a caller sees them. -/

namespace EngineClient

/-- An event. -/
structure Record where
  /-- The name of its schema, where the encoding tells it. -/
  schema : Option String
  /-- The fields of the event. -/
  data : Json.Fields

/-- The event as a document with the keys `data` and `schema`. -/
def Record.toJson (record : Record) : Json :=
  .object [("data", .object record.data), ("schema", Json.ofText? record.schema)]

end EngineClient
