import EngineClient.Proofs.Arrow.Sequence
import EngineClient.Proofs.Decoder

/-! Units of Arrow output are read the same with a marker in front and without. -/

namespace EngineClient.Arrow

/-- How many bytes are read behind some metadata: as many as they announce, and none where they announce
no body within the limits. -/
def Frame.bodySize (metadata : Bytes) : Nat :=
  match Message.ofBytes? metadata with
  | none => 0
  | some head =>
    if head.bodyLength < 0 ∨ (maxBody : Int) < head.bodyLength then 0 else head.bodyLength.toNat

/-- A unit of output apart from its framing: a message, or without metadata the end of a stream. -/
structure Unframed where
  /-- The metadata. -/
  metadata : Bytes
  /-- The body. -/
  body : Bytes
  metadataFits : metadata.length ≤ Frame.maxMetadata
  announced : body.length = Frame.bodySize metadata

namespace Unframed

/-- The unit in the output, with a marker in front or, as older writers put it, without. -/
def framed (unit : Unframed) (marked : Bool) : Bytes :=
  Frame.opening marked unit.metadata.length ++ (unit.metadata ++ unit.body)

/-- Units in the output, each with a marker or without. -/
def framedAll (units : List (Unframed × Bool)) : Bytes :=
  units.flatMap fun (unit, marked) => unit.framed marked

end Unframed

/-- A packet is a unit of its own: the body that its metadata announce is its body. -/
def Packet.unframed (packet : Packet) : Unframed where
  metadata := packet.metadata
  body := packet.body
  metadataFits := packet.metadataFits
  announced := by
    have fits := packet.bodyFits
    have inside : ¬((packet.body.length : Int) < 0 ∨ (Frame.maxBody : Int) < packet.body.length) := by
      omega
    simp only [Frame.bodySize, packet.parsed, packet.announced, if_neg inside, Int.toNat_natCast]

/-- A packet is written as the unit in its framing. -/
theorem Packet.framed_unframed (packet : Packet) :
    packet.unframed.framed packet.marked = packet.written := by
  rw [Packet.written, List.append_assoc]
  rfl

variable [Platform]

namespace Frame

/-- Behind its metadata a unit comes to the same, whatever follows it: its body is read, or none is
where the metadata announce none. -/
theorem yields_readBody_unframed (unit : Unframed) :
    ∃ result, ∀ rest,
      Yields (readBody (opening true unit.metadata.length ++ unit.metadata)) (unit.body ++ rest)
        result rest := by
  -- The metadata stand behind eight bytes of marker and length.
  have metadata : (opening true unit.metadata.length ++ unit.metadata).drop 8 = unit.metadata :=
    List.drop_left' (by simp [opening, marker])
  have announced := unit.announced
  simp only [readBody, metadata]
  simp only [bodySize] at announced
  cases parsed : Message.ofBytes? unit.metadata with
  | none =>
    -- Metadata that cannot be read announce nothing, so what follows is the next unit.
    simp only [parsed, List.length_eq_zero_iff] at announced
    rw [announced]
    exact ⟨_, fun rest => yields_throw (.ofRaw _ _) rest⟩
  | some head =>
    simp only [parsed] at announced
    by_cases outside : head.bodyLength < 0 ∨ (maxBody : Int) < head.bodyLength
    · -- A length outside the limits is turned down before any byte of a body is read.
      rw [if_pos outside, List.length_eq_zero_iff] at announced
      simp only [if_pos outside, announced]
      exact ⟨_, fun rest => yields_throw (.ofRaw _ _) rest⟩
    · rw [if_neg outside] at announced
      simp only [if_neg outside]
      exact ⟨_, fun rest => yields_map (yields_extend _ announced rest) Frame.message⟩

/-- Behind its length a unit comes to the same, whatever follows it. -/
theorem yields_readUnit_unframed (unit : Unframed) :
    ∃ result, ∀ header rest,
      Yields (readUnit header (Bytes.ofNat 4 unit.metadata.length))
        (unit.metadata ++ (unit.body ++ rest)) result rest := by
  by_cases empty : unit.metadata = []
  · -- Without metadata it is the end of a stream, which has no body either.
    have bare : unit.body = [] := by
      have announced := unit.announced
      rw [empty] at announced
      exact List.length_eq_zero_iff.mp announced
    rw [empty, bare]
    exact ⟨_, fun header rest => yields_readUnit_end header rest⟩
  · obtain ⟨result, behind⟩ := yields_readBody_unframed unit
    -- The metadata are read as their length says, and then the body.
    refine ⟨result, fun header rest => ?_⟩
    rw [readUnit_size header (List.length_pos_iff.mpr empty) unit.metadataFits]
    exact yields_bind (yields_extend _ rfl _) (behind rest)

/-- A unit comes to the same with a marker in front and without, whatever follows it. -/
theorem yields_read_unframed (unit : Unframed) :
    ∃ result, ∀ marked rest, Yields read (unit.framed marked ++ rest) result rest := by
  obtain ⟨result, unit⟩ := yields_readUnit_unframed unit
  refine ⟨result.map some, fun marked rest => ?_⟩
  rw [Unframed.framed, List.append_assoc, List.append_assoc]
  exact yields_read_opening (Unframed.metadataFits _) marked fun header => unit header rest

/-- Two sources hold the same units before the same bytes, each unit in a framing of its own. -/
def SameUnits (one other : Source) : Prop :=
  ∃ (units others : List (Unframed × Bool)) (rest : Bytes), units.map Prod.fst = others.map Prod.fst ∧
    one.Holds (Unframed.framedAll units ++ rest) ∧ other.Holds (Unframed.framedAll others ++ rest)

/-- Of sources that hold the same units, the next one is read alike. -/
theorem readsAlike_sameUnits : ReadsAlike SameUnits := by
  rintro one other ⟨units, others, rest, same, oneHolds, otherHolds⟩
  -- The first unit is read alike in either framing, and its framing is not needed any more.
  match units, others with
  | [], [] =>
    -- Behind the units both hold the same bytes.
    exact (readsAlike_bytes one other ⟨rest, oneHolds, otherHolds⟩).mono
      fun left right ⟨bytes, leftHolds, rightHolds⟩ => ⟨[], [], bytes, rfl, leftHolds, rightHolds⟩
  | [], _ :: _ => cases same
  | _ :: _, [] => cases same
  | (unit, marked) :: units, (twin, otherMarked) :: others =>
    obtain ⟨first, behind⟩ := List.cons.inj same
    obtain rfl : unit = twin := first
    simp only [Unframed.framedAll, List.flatMap_cons, List.append_assoc] at oneHolds otherHolds
    obtain ⟨result, yields⟩ := yields_read_unframed unit
    obtain ⟨left, oneRan, leftHolds⟩ := yields marked _ one oneHolds
    obtain ⟨right, otherRan, rightHolds⟩ := yields otherMarked _ other otherHolds
    exact ⟨result, left, right, oneRan, otherRan, units, others, rest, behind, leftHolds, rightHolds⟩

end Frame

end EngineClient.Arrow

namespace EngineClient.Decoder

/-- Two readers of Arrow streams which have taken in the same, with the same units before them. -/
inductive Reframed : Decoder → Decoder → Prop where
  | arrow {one other : Arrow.Batches} (agree : one.Agree Arrow.Frame.SameUnits other) :
    Reframed (.arrow one) (.arrow other)

section

variable [Platform]

/-- Readers of the same units reply the same to a call. -/
theorem make_reframed (call : Call) {one other : Decoder} (reframed : Reframed one other) :
    SameAnswer Reframed (one.make call) (other.make call) := by
  -- Both kinds of calls agree where the next unit is read alike.
  refine make_same ?_ ?_ call reframed
  · rintro _ _ ⟨agree⟩
    exact (Arrow.Batches.nextRecord_agree Arrow.Frame.readsAlike_sameUnits agree).map fun _ _ => .arrow
  · rintro _ _ ⟨agree⟩
    exact (Arrow.Batches.nextBatch_agree Arrow.Frame.readsAlike_sameUnits agree).map fun _ _ => .arrow

/-- Whether each unit of an output is written with a marker or without makes no difference to any reply,
whatever follows the units: neither to what is read nor to what is reported. -/
theorem replies_framed {units others : List (Arrow.Unframed × Bool)}
    (same : units.map Prod.fst = others.map Prod.fst) (rest : Bytes) {one other : Source}
    (oneHolds : one.Holds (Arrow.Unframed.framedAll units ++ rest))
    (otherHolds : other.Holds (Arrow.Unframed.framedAll others ++ rest)) (calls : List Call) :
    ∃ replies, (ofSource .arrow one).replies calls = some replies ∧
      (ofSource .arrow other).replies calls = some replies := by
  have begins : Reframed (ofSource .arrow one) (ofSource .arrow other) :=
    .arrow ⟨⟨units, others, rest, same, oneHolds, otherHolds⟩, rfl, rfl⟩
  exact replies_same (fun call _ _ => make_reframed call) begins calls

end

open scoped Platform in
/-- A batch without a schema is reported with a marker in front, as it was written with one or without,
and behind it the output is over. -/
theorem replies_framed_schemaless :
    let units (marked : Bool) := [(Arrow.Batches.bodiedPacket.unframed, marked)]
    let source (marked : Bool) : Source := { events := [.data (Arrow.Unframed.framedAll (units marked))] }
    let replies := [Reply.batch (.error
      (Arrow.Batches.undecodable Arrow.Batches.bodiedWaiting Arrow.Batches.bodiedPacket.frame)),
      .batch (.ok none)]
    (units true).map Prod.fst = (units false).map Prod.fst ∧
    (∀ marked, (source marked).Holds (Arrow.Unframed.framedAll (units marked) ++ [])) ∧
    ∀ marked, (ofSource .arrow (source marked)).replies [.batch, .batch] = some replies := by
  intro units source replies
  have same : (units true).map Prod.fst = (units false).map Prod.fst := rfl
  have holds (marked : Bool) : (source marked).Holds (Arrow.Unframed.framedAll (units marked) ++ []) := by
    rw [List.append_nil]
    exact Source.holds_data _
  obtain ⟨found, marked, unmarked⟩ :=
    replies_framed same [] (holds true) (holds false) [.batch, .batch]
  -- With the marker the unit is written as the packet is.
  have written : (source true).Holds Arrow.Batches.bodiedPacket.written := by
    have first := holds true
    rw [List.append_nil, Arrow.Unframed.framedAll, List.flatMap_singleton] at first
    exact Arrow.Packet.framed_unframed _ ▸ first
  -- The batch fails for want of a schema, and behind it is the end.
  obtain ⟨next, behind, ran⟩ := Arrow.Batches.nextBatch_bodied written
  obtain ⟨after, ended⟩ := Arrow.Batches.nextBatch_nil behind
  have replied : (ofSource .arrow (source true)).replies [.batch, .batch] = some replies := by
    simp only [ofSource, Decoder.replies, make, nextBatch, ran, ended, Option.map_some]
    rfl
  -- The marker makes no difference to the replies.
  cases replied.symm.trans marked
  refine ⟨same, holds, fun marked => ?_⟩
  cases marked with
  | true => exact replied
  | false => exact unmarked

end EngineClient.Decoder
