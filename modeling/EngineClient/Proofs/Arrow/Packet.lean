import EngineClient.Proofs.Arrow.Frame
import EngineClient.Proofs.Bytes

/-! Messages as writers put them into an output, and the units that are read of them. -/

namespace EngineClient.Arrow

/-- What precedes a unit: the length of its metadata, with or without a marker before it. -/
def Frame.opening (marked : Bool) (size : Nat) : Bytes :=
  (if marked then marker else []) ++ Bytes.ofNat 4 size

/-- A length within the limit is read back. -/
theorem Frame.toInt_size {size : Nat} (fits : size ≤ maxMetadata) :
    (Bytes.ofNat 4 size).toInt = size := by
  have limit : maxMetadata = 67108864 := rfl
  have room : Nat.pow 256 4 = 4294967296 := rfl
  exact Bytes.toInt_ofNat (by omega)

/-- A length within the limit is read back, whatever sign it could have. -/
theorem Frame.toNat_size {size : Nat} (fits : size ≤ maxMetadata) :
    (Bytes.ofNat 4 size).toNat = size := by
  have limit : maxMetadata = 67108864 := rfl
  have room : Nat.pow 256 4 = 4294967296 := rfl
  exact Bytes.toNat_ofNat (by omega)

/-- A message as it is written: its metadata and its body, within the limits on both. -/
structure Packet where
  /-- Whether a marker precedes the message; older writers leave it out. -/
  marked : Bool
  /-- The metadata. -/
  metadata : Bytes
  /-- What the metadata tell. -/
  message : Message
  /-- The body. -/
  body : Bytes
  parsed : Message.ofBytes? metadata = some message
  metadataFits : metadata.length ≤ Frame.maxMetadata
  announced : message.bodyLength = body.length
  bodyFits : body.length ≤ Frame.maxBody

namespace Packet

/-- The message in the output. -/
def written (packet : Packet) : Bytes :=
  Frame.opening packet.marked packet.metadata.length ++ packet.metadata ++ packet.body

/-- The message when it is handed on, which it is with a marker. -/
def frame (packet : Packet) : Bytes :=
  Frame.opening true packet.metadata.length ++ packet.metadata ++ packet.body

/-- No message comes of no metadata. -/
theorem metadata_length_pos (packet : Packet) : 0 < packet.metadata.length := by
  -- A message begins with the place of its table, which takes bytes.
  apply List.length_pos_iff.mpr
  intro empty
  have parsed := packet.parsed
  rw [empty] at parsed
  have absurd : Message.ofBytes? [] = none := rfl
  simp [absurd] at parsed

end Packet

namespace Frame

/-- Extending a frame brings bytes that are all there. -/
theorem yields_extend (frame : Bytes) {bytes : Bytes} {count : Nat} (length : bytes.length = count)
    (rest : Bytes) : Yields (extend frame count) (bytes ++ rest) (.ok (frame ++ bytes)) rest := by
  -- As many bytes are there as are asked for, so the frame is not cut short.
  have filled := yields_fill count (bytes ++ rest)
  rw [← length, List.take_left, List.drop_left, length] at filled
  refine yields_bind filled ?_
  rw [if_neg (by omega)]
  exact yields_pure _ rest

variable [Platform]

/-- Behind the metadata of a packet its body is read. -/
theorem readBody_packet (packet : Packet) :
    readBody (opening true packet.metadata.length ++ packet.metadata) = (do
      return .message (← extend (opening true packet.metadata.length ++ packet.metadata)
        packet.body.length)) := by
  -- Behind the marker and the length stand the metadata that announce the body.
  have metadata : (opening true packet.metadata.length ++ packet.metadata).drop 8
      = packet.metadata := List.drop_left' (by simp [opening, marker])
  have inside : ¬((packet.body.length : Int) < 0 ∨ (maxBody : Int) < packet.body.length) := by
    have fits := packet.bodyFits
    omega
  simp only [readBody, metadata, packet.parsed, packet.announced, if_neg inside, Int.toNat_natCast]

/-- Behind a length that is neither zero, which would end the stream, nor beyond the limit, metadata of
that length are read, and the body that they announce. -/
theorem readUnit_size (header : Bytes) {size : Nat} (some : 0 < size) (fits : size ≤ maxMetadata) :
    readUnit header (Bytes.ofNat 4 size) = (do readBody (← extend (opening true size) size)) := by
  have other : (size : Int) ≠ 0 := by omega
  have inside : ¬((size : Int) < 0 ∨ (maxMetadata : Int) < size) := by omega
  simp only [readUnit, toInt_size fits, if_neg other, if_neg inside, Int.toNat_natCast]
  rfl

/-- Behind the length of its metadata a packet is read, the metadata first. -/
theorem readUnit_packet (header : Bytes) (packet : Packet) :
    readUnit header (Bytes.ofNat 4 packet.metadata.length) = (do
      readBody (← extend (opening true packet.metadata.length) packet.metadata.length)) :=
  readUnit_size header packet.metadata_length_pos packet.metadataFits

/-- A packet is read behind the length of its metadata. -/
theorem yields_readUnit (header : Bytes) (packet : Packet) (rest : Bytes) :
    Yields (readUnit header (Bytes.ofNat 4 packet.metadata.length))
      (packet.metadata ++ packet.body ++ rest) (.ok (.message packet.frame)) rest := by
  rw [readUnit_packet, List.append_assoc]
  refine yields_bind (yields_extend _ rfl _) ?_
  rw [readBody_packet]
  exact yields_map (yields_extend _ rfl rest) Frame.message

/-- A unit is read behind what precedes it, or fails to be. -/
theorem yields_read_opening {size : Nat} (fits : size ≤ maxMetadata) (marked : Bool)
    {bytes rest : Bytes} {result : Except Error Frame}
    (yields : ∀ header, Yields (readUnit header (Bytes.ofNat 4 size)) bytes result rest) :
    Yields read (opening marked size ++ bytes) (result.map some) rest := by
  -- Marker and length take four bytes each, and are filled one after the other.
  have first (start : Bytes) (four : start.length = 4) (others : Bytes) :
      Yields (fill 4) (start ++ others) (.ok start) others := by
    have filled := yields_fill 4 (start ++ others)
    rwa [← four, List.take_left, List.drop_left, four] at filled
  -- A marker is passed, and the length is what stands behind it; else it comes first.
  cases marked with
  | true =>
    simp only [opening, if_true, List.append_assoc]
    refine yields_bind (first marker rfl _) (yields_map ?_ some)
    refine yields_bind (first _ (Bytes.length_ofNat 4 size) _) ?_
    rw [if_neg (by simp)]
    exact yields _
  | false =>
    -- A length within the limit is not taken for a marker.
    have other : Bytes.ofNat 4 size ≠ marker := by
      intro same
      have value := toNat_size fits
      have limit : maxMetadata = 67108864 := rfl
      have great : Bytes.toNat marker = 4294967295 := by simp [marker, Bytes.toNat]
      rw [same] at value
      omega
    have filled : (Bytes.ofNat 4 size).isEmpty = false := by
      simp [← List.length_eq_zero_iff]
    simp only [opening, Bool.false_eq_true, if_false, List.nil_append]
    refine yields_bind (first _ (Bytes.length_ofNat 4 size) _) ?_
    simp only [filled, Bool.false_eq_true, if_false]
    refine yields_map ?_ some
    simp only [readFrom, Bytes.length_ofNat, Nat.lt_irrefl, if_false, if_neg other]
    exact yields _

/-- A packet is read as the unit that it is, and what follows it is left. -/
theorem yields_read_packet (packet : Packet) (rest : Bytes) :
    Yields read (packet.written ++ rest) (.ok (some (.message packet.frame))) rest := by
  -- Whether the marker was written makes no difference to the frame that is handed on.
  have unit (header : Bytes) : Yields (readUnit header (Bytes.ofNat 4 packet.metadata.length))
      (packet.metadata ++ (packet.body ++ rest)) (.ok (.message packet.frame)) rest := by
    rw [← List.append_assoc]
    exact yields_readUnit header packet rest
  simp only [Packet.written, List.append_assoc]
  exact yields_read_opening packet.metadataFits packet.marked unit

/-- A length of zero is no metadata but the mark of the end of a stream. -/
theorem yields_readUnit_end (header rest : Bytes) :
    Yields (readUnit header (Bytes.ofNat 4 0)) rest (.ok .endOfStream) rest := by
  have zero : (Bytes.ofNat 4 0).toInt = 0 := toInt_size (Nat.zero_le _)
  simp only [readUnit, zero, if_true]
  exact yields_pure _ rest

/-- The end of a stream is read as the unit that it is, and what follows it is left. -/
theorem yields_read_end (marked : Bool) (rest : Bytes) :
    Yields read (opening marked 0 ++ rest) (.ok (some .endOfStream)) rest :=
  yields_read_opening (Nat.zero_le _) marked fun header => yields_readUnit_end header rest

end Frame

end EngineClient.Arrow
