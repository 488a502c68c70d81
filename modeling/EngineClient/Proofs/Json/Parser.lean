import EngineClient.Json.Parser

/-! How the reader of documents goes on: into a list, past a member of one, out of it, and from the
last byte to the answer. -/

namespace EngineClient.Json

variable {depth fuel : Nat} {first : Bool} {read : List Json} {bytes : Bytes}

/-- An opening bracket inside the limit starts the members of a list. -/
theorem value_list :
    value (depth + 1) (0x5B :: bytes) (fuel + 1) = items depth true [] bytes fuel := by
  rw [value]
  rfl

/-- A member that is there and can be read is set behind those before it. -/
theorem items_of_member {start behind rest : Bytes} {item : Json}
    (next : nextItem first bytes = .ok (some start, behind))
    (one : value depth start fuel = .ok (item, rest)) :
    items depth first read bytes (fuel + 1) = items depth false (item :: read) rest fuel := by
  simp only [items, next, one]

/-- At its end a list has the members that were read. -/
theorem items_of_end {rest : Bytes} (next : nextItem first bytes = .ok (none, rest)) :
    items depth first read bytes (fuel + 1) = .ok (.array read.reverse, rest) := by
  simp only [items, next]

/-- A value behind which only spaces are left is the whole document. -/
theorem parse_of_value {document : Json} {rest : Bytes}
    (whole : value depthLimit bytes (2 * bytes.length + 2) = .ok (document, rest))
    (spaces : skipSpace rest = []) : parse bytes = .ok document := by
  -- Behind the value the reader looks for anything but spaces.
  have answered : Json.document bytes = .ok document := by
    simp only [Json.document, whole, Bind.bind, Except.bind, spaces]
  rw [parse, answered]

end EngineClient.Json
