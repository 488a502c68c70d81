import EngineClient.Decoder
import EngineClient.Proofs.Arrow.Batches
import EngineClient.Proofs.Json.Lines

/-! A reader of either encoding answers by the bytes of its output, however they arrive, and comes to
an end of them unless they hang. -/

namespace EngineClient.Decoder

/-- Two readers of one encoding with the same bytes before them, which have taken in the same. -/
inductive Alike : Decoder → Decoder → Prop where
  /-- Readers of JSON lines. -/
  | json {one other : Json.Lines} (alike : one.Alike other) : Alike (.json one) (.json other)
  /-- Readers of Arrow streams. -/
  | arrow {one other : Arrow.Batches} (alike : one.Alike other) :
    Alike (.arrow one) (.arrow other)

/-- Fresh readers of the same bytes are alike. -/
theorem ofSource_alike {one other : Source} {bytes : Bytes} (encoding : Encoding)
    (oneHolds : one.Holds bytes) (otherHolds : other.Holds bytes) :
    Alike (ofSource encoding one) (ofSource encoding other) := by
  cases encoding with
  | json => exact .json ⟨⟨bytes, oneHolds, otherHolds⟩, rfl⟩
  | arrow => exact .arrow ⟨⟨bytes, oneHolds, otherHolds⟩, rfl, rfl⟩

/-- A reading that answers the same for readers that are alike. -/
def Respects {α : Type} (read : Decoder → Answer α) : Prop :=
  ∀ one other, Alike one other → SameAnswer Alike (read one) (read other)

/-- A fresh reader has the output before it. -/
@[simp] theorem ofSource_source (encoding : Encoding) (source : Source) :
    (ofSource encoding source).source = source := by
  cases encoding <;> rfl

variable [Platform]

/-- Readers that are alike read the same event. -/
theorem nextRecord_respects : Respects nextRecord := by
  -- Both encodings bring events, each by a reader of its own.
  intro one other alike
  cases alike with
  | json alike => exact (Json.Lines.next_alike alike).map fun _ _ => .json
  | arrow alike => exact (Arrow.Batches.nextRecord_alike alike).map fun _ _ => .arrow

/-- Readers that are alike read the same batch. -/
theorem nextBatch_respects : Respects nextBatch := by
  -- Lines have no batches, so a reader of them turns the call down and stays where it is.
  intro one other alike
  cases alike with
  | json alike => exact .intro (.json alike)
  | arrow alike => exact (Arrow.Batches.nextBatch_alike alike).map fun _ _ => .arrow

/-- A call on a reader. -/
inductive Call where
  /-- The next event is asked for. -/
  | record
  /-- The next batch is asked for. -/
  | batch
deriving DecidableEq, Repr

/-- What a reader replies to a call. -/
inductive Reply where
  | record (answer : Except Error (Option Record))
  | batch (answer : Except Error (Option Arrow.NamedBatch))

/-- Makes a call on a reader. -/
def make (call : Call) (decoder : Decoder) : Option (Reply × Decoder) :=
  match call with
  | .record => decoder.nextRecord.map fun (answer, decoder) => (.record answer, decoder)
  | .batch => decoder.nextBatch.map fun (answer, decoder) => (.batch answer, decoder)

/-- The replies to calls that are made one after another; `none` where one of them never comes. -/
def replies : List Call → Decoder → Option (List Reply)
  | [], _ => some []
  | call :: rest, decoder =>
    match decoder.make call with
    | some (reply, decoder) => (replies rest decoder).map (reply :: ·)
    | none => none

section

variable {Same : Decoder → Decoder → Prop}

/-- Readers that read the same events and batches reply the same to a call. -/
theorem make_same
    (records : ∀ one other, Same one other → SameAnswer Same one.nextRecord other.nextRecord)
    (batches : ∀ one other, Same one other → SameAnswer Same one.nextBatch other.nextBatch)
    (call : Call) {one other : Decoder} (same : Same one other) :
    SameAnswer Same (one.make call) (other.make call) := by
  -- A call asks for a record or for a batch.
  cases call with
  | record =>
    obtain ⟨answer, left, right, oneRan, otherRan, same⟩ := records one other same
    simp only [make, oneRan, otherRan, Option.map_some]
    exact .intro same
  | batch =>
    obtain ⟨answer, left, right, oneRan, otherRan, same⟩ := batches one other same
    simp only [make, oneRan, otherRan, Option.map_some]
    exact .intro same

/-- Readers that reply the same to each call, and are left so, reply the same to all calls. -/
theorem replies_same
    (makes : ∀ call one other, Same one other → SameAnswer Same (one.make call) (other.make call))
    {one other : Decoder} (same : Same one other) (calls : List Call) :
    ∃ replies, one.replies calls = some replies ∧ other.replies calls = some replies := by
  -- The induction is on the calls; each is replied to by the readers that the one before leaves.
  induction calls generalizing one other with
  | nil => exact ⟨[], rfl, rfl⟩
  | cons call rest ih =>
    obtain ⟨reply, left, right, oneRan, otherRan, same⟩ := makes call one other same
    obtain ⟨others, leftReplies, rightReplies⟩ := ih same
    refine ⟨reply :: others, ?_, ?_⟩
    · simp only [replies, oneRan, leftReplies, Option.map_some]
    · simp only [replies, otherRan, rightReplies, Option.map_some]

end

/-- Readers that are alike reply to calls, and reply the same. -/
theorem replies_alike {one other : Decoder} (alike : Alike one other) (calls : List Call) :
    ∃ replies, one.replies calls = some replies ∧ other.replies calls = some replies :=
  replies_same (fun call _ _ => make_same nextRecord_respects nextBatch_respects call) alike calls

/-- A reader whose output never comes to hang. -/
def IsLive (decoder : Decoder) : Prop :=
  decoder.source.IsLive

/-- Reading the next event comes to an answer where nothing hangs. -/
theorem nextRecord_answered (decoder : Decoder) (live : decoder.IsLive) :
    Answered IsLive Error.IsOfOutput decoder.nextRecord := by
  cases decoder with
  | json lines => exact (Json.Lines.next_answered live).map fun _ kept => kept
  | arrow batches => exact (Arrow.Batches.nextRecord_answered live).map fun _ kept => kept

/-- A reader of an output that never comes to hang reads it to its end, or fails to. -/
theorem exhausts_of_live {decoder : Decoder} (live : decoder.IsLive) :
    ∃ records last rest, Exhausts nextRecord decoder records last rest ∧
      ∀ error, last = .error error → error.IsOfOutput :=
  Exhausts.of_answered nextRecord_answered
    (fun decoder rest record ran => Prod.lex_def.mpr (nextRecord_consumes decoder rest record ran))
    live

end EngineClient.Decoder
