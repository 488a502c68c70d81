import EngineClient.Proofs.Arrow.Proper
import EngineClient.Proofs.Json.Proper
import EngineClient.Proofs.Session.Taking

/-! The events of an export can be written down, whatever the engine sends. -/

namespace EngineClient

open Json (IsProper IsPlain ofText?)

namespace Json.Lines

/-- The fields of an event that is read of a line can be written down. -/
theorem isProper_of_next {lines rest : Lines} {record : Record}
    (ran : lines.next = some (.ok (some record), rest)) : IsProper (.object record.data) := by
  obtain ⟨place, unit, found⟩ := next_item ran
  exact isProper_of_parse (item_eq_ok_iff.mp found).1

end Json.Lines

namespace Decoder

variable [Platform]

/-- A reader whose rows that were not read yet can be written down where they are rendered. -/
def HoldsProper : Decoder → Prop
  | .json _ => True
  | .arrow batches => batches.HoldsProper

/-- A reader that is opened holds no rows yet. -/
theorem holdsProper_ofSource (encoding : Encoding) (source : Source) :
    (ofSource encoding source).HoldsProper := by
  cases encoding with
  | json => trivial
  | arrow => exact fun _ absurd => nomatch absurd

/-- The fields of an event that is read can be written down, and what is held then stays so. -/
theorem isProper_of_nextRecord {decoder rest : Decoder} {record : Record}
    (proper : decoder.HoldsProper) (ran : decoder.nextRecord = some (.ok (some record), rest)) :
    IsProper (.object record.data) ∧ rest.HoldsProper := by
  -- Lines and batches each read only what can be written down.
  cases decoder with
  | json lines =>
    obtain ⟨⟨answer, after⟩, read, same⟩ := Option.map_eq_some_iff.mp ran
    cases same
    exact ⟨Json.Lines.isProper_of_next read, trivial⟩
  | arrow batches =>
    obtain ⟨⟨answer, after⟩, read, same⟩ := Option.map_eq_some_iff.mp ran
    cases same
    exact Arrow.Batches.isProper_of_nextRecord proper read

/-- The fields of all events that are read can be written down. -/
theorem isProper_of_exhausts {decoder rest : Decoder} {records : List Record}
    {last : Except Error Unit} (exhausts : Exhausts nextRecord decoder records last rest)
    (proper : decoder.HoldsProper) : ∀ record ∈ records, IsProper (.object record.data) := by
  -- What is held is the invariant of the reading.
  induction exhausts with
  | ended => exact List.forall_mem_nil _
  | failed => exact List.forall_mem_nil _
  | item answered behind ih =>
    obtain ⟨first, kept⟩ := isProper_of_nextRecord proper answered
    exact List.forall_mem_cons.mpr ⟨first, ih kept⟩

end Decoder

/-- The fields of all events of an export that ends can be written down. -/
theorem Session.isProper_of_exhausts [Platform] {fresh after : Session} (idle : fresh.phase = .idle)
    {records : List Record} {last : Except Error Unit}
    (exhausts : Exhausts nextRecord fresh records last after) :
    ∀ record ∈ records, IsProper (.object record.data) := by
  cases spawned : fresh.engine.spawnError with
  | some error =>
    -- An engine that cannot be started sends no events.
    obtain ⟨_, other, _⟩ := verdict_unstarted idle spawned
    obtain ⟨rfl, _⟩ := exhausts.unique other
    exact List.forall_mem_nil _
  | none =>
    obtain ⟨last, rest, read⟩ := opened_of_exhausts idle exhausts spawned
    exact Decoder.isProper_of_exhausts read (Decoder.holdsProper_ofSource _ _)

namespace Json

/-- A text, or null in its place, can be written down. -/
theorem isProper_ofText? (text : Option String) : IsProper (ofText? text) := by
  cases text with
  | none => exact .null
  | some text => exact .string text

/-- It takes no level. -/
theorem isPlain_ofText? (depth : Nat) (text : Option String) : IsPlain depth (ofText? text) := by
  cases text with
  | none => exact .null depth
  | some text => exact .string depth text

end Json

namespace Record

/-- The object with the keys `data` and `schema` that an event is printed as. -/
def fields (record : Record) : Json.Fields :=
  [("data", .object record.data), ("schema", ofText? record.schema)]

/-- It can be written down if the data can. -/
theorem isProper_fields {record : Record} (proper : IsProper (.object record.data)) :
    IsProper (.object record.fields) := by
  -- The two names of an event ascend.
  have order : "data" < "schema" := by
    rw [String.lt_iff_toList_lt]
    decide
  refine .object (List.pairwise_pair.mpr order) ?_
  simp [fields, proper, Json.isProper_ofText? record.schema]

/-- It takes one level more than the data. -/
theorem isPlain_fields {record : Record} {depth : Nat} (plain : IsPlain depth (.object record.data)) :
    IsPlain (depth + 1) (.object record.fields) := by
  refine .object ?_
  simp [fields, plain, Json.isPlain_ofText? depth record.schema]

end Record

end EngineClient
