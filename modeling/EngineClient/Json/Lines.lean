import EngineClient.Engine.Source
import EngineClient.Json.Parser
import EngineClient.Record

/-! Output with one JSON object a line. -/

namespace EngineClient.Json

/-- A reader of lines, each a JSON object. -/
structure Lines where
  /-- The output still to be read. -/
  source : Source
  /-- How many lines were read, blank ones included. -/
  count : Nat := 0

namespace Lines

/-- The event that a line holds, blanks around it dropped already. -/
def item (number : Nat) (line : Bytes) : Except Error Record :=
  match parse line with
  | .ok (.object fields) => .ok ⟨none, fields⟩
  -- A document that is no object is well-formed, but no event.
  | .ok _ => .error (.ofRaw ("json on line " ++ toString number ++ " is not an object") line)
  | .error fault =>
    let error := Error.ofRaw ("malformed json on line " ++ toString number) line
    .error { error with causes := [fault.message] }

/-- What a reader answers: an event, the end of the output or a failure, unless it never does. -/
abbrev Answer := Option (Except Error (Option Record) × Lines)

/-- Reads the next event, past the blank lines before it. -/
def next (lines : Lines) : Answer :=
  match read : lines.source.line with
  | none => none
  | some (.error cause, source) => some (.error (.ofRead cause), { lines with source })
  | some (.ok none, source) => some (.ok none, { lines with source })
  | some (.ok (some line), source) =>
    let lines : Lines := ⟨source, lines.count + 1⟩
    let unit := Text.trimBytes line
    if unit.isEmpty then lines.next else some ((item lines.count unit).map some, lines)
termination_by lines.source.size
-- Every line, blank or not, takes at least a byte.
decreasing_by exact Source.line_size read

/-- An event that was read leaves fewer bytes to be read. -/
theorem next_size (lines : Lines) {record : Record} {rest : Lines}
    (ran : lines.next = some (.ok (some record), rest)) :
    rest.source.size < lines.source.size := by
  -- Every line on the way to the event, and its own, takes at least a byte.
  fun_induction next lines with
  | case1 => simp at ran
  | case2 => simp at ran
  | case3 => simp at ran
  | case4 lines line source read counted unit blank ih =>
    exact Nat.lt_trans (ih ran) (Source.line_size read)
  | case5 lines line source read counted unit blank =>
    simp only [Option.some.injEq, Prod.mk.injEq] at ran
    obtain ⟨_, rfl⟩ := ran
    exact Source.line_size read

end Lines

end EngineClient.Json
