import EngineClient.Arrow.Batches
import EngineClient.Dialect
import EngineClient.Json.Lines

/-! Reading the output of an export in the encoding that was asked for. -/

namespace EngineClient

/-- A reader of events. -/
inductive Decoder where
  | json (lines : Json.Lines)
  | arrow (batches : Arrow.Batches)

namespace Decoder

/-- What a reader answers: something, the end of the output or a failure, unless it never does. -/
abbrev Answer (α : Type) := Option (Except Error (Option α) × Decoder)

/-- A reader of output in an encoding. -/
def ofSource (encoding : Encoding) (source : Source) : Decoder :=
  match encoding with
  | .json => .json { source }
  | .arrow => .arrow { source }

/-- The output still to be read. -/
def source : Decoder → Source
  | .json lines => lines.source
  | .arrow batches => batches.source

/-- What is left to be read: bytes first, and rows of the last batch second. -/
def remaining : Decoder → Nat × Nat
  | .json lines => (lines.source.size, 0)
  | .arrow batches => batches.remaining

/-- A fresh reader has all of the output before it. -/
theorem ofSource_remaining (encoding : Encoding) (events : List OutputEvent) :
    (ofSource encoding { events }).remaining = (Source.eventsSize events, 0) := by
  cases encoding <;>
    simp [ofSource, remaining, Arrow.Batches.remaining, Arrow.Batches.heldRows, Source.size]

/-- Only Arrow streams come in batches. -/
def noBatches : Error :=
  { kind := .usage, message := some "batches are only available for arrow exports"
    hint := some "Request Encoding::Arrow to read schema-tagged batches." }

variable [Platform]

/-- Reads the next event. -/
def nextRecord : Decoder → Answer Record
  | .json lines => lines.next.map fun (answer, lines) => (answer, .json lines)
  | .arrow batches => batches.nextRecord.map fun (answer, batches) => (answer, .arrow batches)

/-- Reads the next batch. -/
def nextBatch : Decoder → Answer Arrow.NamedBatch
  -- The call is turned down without a look at the output.
  | .json lines => some (.error noBatches, .json lines)
  | .arrow batches => batches.nextBatch.map fun (answer, batches) => (answer, .arrow batches)

/-- A reading that leaves less to be read whenever it brings something. -/
def Consumes {α : Type} (read : Decoder → Answer α) : Prop :=
  ∀ decoder rest item, read decoder = some (.ok (some item), rest) →
    Arrow.Batches.Shorter rest.remaining decoder.remaining

/-- Reading an event leaves less to be read. -/
theorem nextRecord_consumes : Consumes nextRecord := by
  intro decoder rest record ran
  -- Lines leave less of the output, and batches leave less of it or fewer rows.
  cases decoder with
  | json lines =>
    simp only [nextRecord, Option.map_eq_some_iff, Prod.mk.injEq] at ran
    obtain ⟨⟨answer, after⟩, read, rfl, rfl⟩ := ran
    exact Or.inl (lines.next_size read)
  | arrow batches =>
    simp only [nextRecord, Option.map_eq_some_iff, Prod.mk.injEq] at ran
    obtain ⟨⟨answer, after⟩, read, rfl, rfl⟩ := ran
    exact Arrow.Batches.nextRecord_remaining read

/-- Reading a batch leaves less to be read. -/
theorem nextBatch_consumes : Consumes nextBatch := by
  intro decoder rest batch ran
  -- Lines hold no batches.
  cases decoder with
  | json lines => simp [nextBatch] at ran
  | arrow batches =>
    simp only [nextBatch, Option.map_eq_some_iff, Prod.mk.injEq] at ran
    obtain ⟨⟨answer, after⟩, read, rfl, rfl⟩ := ran
    exact Arrow.Batches.nextBatch_remaining read

end Decoder

end EngineClient
