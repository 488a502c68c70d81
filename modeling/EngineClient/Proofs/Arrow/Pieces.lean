import EngineClient.Proofs.Arrow.Packet

/-! Outputs as pieces, one after another, and what is read of a piece that is cut short. -/

namespace EngineClient.Arrow

/-- A piece of output as it is written. -/
inductive Piece where
  /-- A message. -/
  | message (packet : Packet)
  /-- The end of a stream, with or without a marker before it. -/
  | stop (marked : Bool)

namespace Piece

/-- Whether a marker precedes the piece. -/
def marked : Piece → Bool
  | .message packet => packet.marked
  | .stop marked => marked

/-- The length of the metadata, which the end of a stream has none of. -/
def size : Piece → Nat
  | .message packet => packet.metadata.length
  | .stop _ => 0

/-- What stands behind the length. -/
def content : Piece → Bytes
  | .message packet => packet.metadata ++ packet.body
  | .stop _ => []

/-- The piece in the output. -/
def written (piece : Piece) : Bytes :=
  Frame.opening piece.marked piece.size ++ piece.content

/-- The unit that is read of the piece. -/
def frame : Piece → Frame
  | .message packet => .message packet.frame
  | .stop _ => .endOfStream

/-- What is reported of a piece of which only a part is there. A marker is put in front where it has
none, as soon as its length is complete. -/
def reported (piece : Piece) (part : Bytes) : Bytes :=
  if piece.marked = false ∧ 4 ≤ part.length then Frame.marker ++ part else part

/-- A piece with a marker is reported as it is. -/
theorem reported_of_marked {piece : Piece} (marked : piece.marked = true) (part : Bytes) :
    piece.reported part = part := by
  rw [reported, if_neg fun bare => Bool.false_ne_true (bare.left.symm.trans marked)]

/-- Fewer bytes than a length takes are reported as they are. -/
theorem reported_of_few (piece : Piece) {part : Bytes} (few : part.length < 4) :
    piece.reported part = part := by
  rw [reported, if_neg fun bare => Nat.not_le_of_lt few bare.right]

/-- Once its length is complete, a piece is reported with a marker in front. -/
theorem reported_opening (piece : Piece) (content : Bytes) :
    piece.reported (Frame.opening piece.marked piece.size ++ content)
      = Frame.opening true piece.size ++ content := by
  by_cases marked : piece.marked = true
  · rw [reported_of_marked marked, marked]
  · have bare : piece.marked = false := Bool.eq_false_iff.mpr marked
    -- Behind four bytes without a marker the length is complete, so a marker is added.
    have enough : 4 ≤ (Frame.opening false piece.size ++ content).length := by
      simp [Frame.opening]
    rw [reported, bare, if_pos ⟨rfl, enough⟩]
    simp [Frame.opening]

/-- The metadata of a piece are within the limit. -/
theorem size_le (piece : Piece) : piece.size ≤ Frame.maxMetadata := by
  cases piece with
  | message packet => exact packet.metadataFits
  | stop marked => exact Nat.zero_le _

/-- A piece takes at least its length. -/
theorem written_length_pos (piece : Piece) : 0 < piece.written.length := by
  simp only [written, Frame.opening, List.length_append, Bytes.length_ofNat]
  omega

/-- A packet is written as a piece as it is by itself. -/
theorem written_message (packet : Packet) : (message packet).written = packet.written := by
  simp only [written, content, marked, size, Packet.written, List.append_assoc]

end Piece

namespace Frame

section

variable {bytes part : Bytes}

/-- A beginning that is not the whole is shorter. -/
theorem length_lt_of_part {whole : Bytes} (front : part <+: whole) (short : part ≠ whole) :
    part.length < whole.length :=
  Nat.lt_of_le_of_ne front.length_le fun same => short (front.eq_of_length same)

/-- A beginning of two parts is one of the first part that is cut short, or goes on behind it. -/
theorem part_of_append {first second : Bytes} (front : part <+: first ++ second) :
    part <+: first ∧ part ≠ first ∨ ∃ rest, rest <+: second ∧ part = first ++ rest := by
  rcases List.prefix_or_prefix_of_prefix front (List.prefix_append first second)
    with inside | ⟨rest, rfl⟩
  · -- A front inside the first is all of it, or a part.
    by_cases whole : part = first
    · exact .inr ⟨[], List.nil_prefix, by rw [whole, List.append_nil]⟩
    · exact .inl ⟨inside, whole⟩
  · exact .inr ⟨rest, (List.prefix_append_right_inj first).mp front, rfl⟩

end

/-- A length in four bytes is the one that is written there. -/
theorem ofNat_toInt {length : Bytes} (four : length.length = 4) {size : Nat}
    (value : length.toInt = size) : length = Bytes.ofNat 4 size := by
  -- A length that is not negative is the same with and without a sign.
  have positive : 0 ≤ length.toInt := by omega
  have same : length.toNat = size := by
    have unsigned := Bytes.toNat_of_toInt positive
    omega
  rw [← same, ← four, Bytes.ofNat_toNat]

section

variable {bytes part : Bytes}

/-- Extending a frame fails where fewer bytes are there than are asked for. -/
theorem yields_extend_short (frame : Bytes) {count : Nat} (few : bytes.length < count) :
    Yields (extend frame count) bytes
      (.error (.ofRaw "truncated arrow ipc message" (frame ++ bytes))) [] := by
  -- Filling takes all bytes, and finds too few.
  have filled := yields_fill count bytes
  rw [List.take_of_length_le (Nat.le_of_lt few), List.drop_of_length_le (Nat.le_of_lt few)] at filled
  refine yields_bind filled ?_
  rw [if_pos few]
  exact yields_throw _ []

/-- Of an opening that is cut short four bytes are the marker. -/
theorem marker_prefix_of_part {marked : Bool} {size : Nat} (front : part <+: opening marked size)
    (short : part ≠ opening marked size) (enough : 4 ≤ part.length) :
    marked = true ∧ marker <+: part := by
  have less := length_lt_of_part front short
  by_cases set : marked = true
  · rw [set, opening, if_pos rfl] at front
    exact ⟨set, List.prefix_of_prefix_length_le (List.prefix_append _ _) front enough⟩
  · -- Without a marker four bytes are the whole opening.
    rw [opening, if_neg set, List.nil_append, Bytes.length_ofNat] at less
    omega

end

section

variable {source left : Source} {bytes : Bytes}

/-- What was filled are the first bytes, and the others are left. -/
theorem fill_ok (holds : source.Holds bytes) {count : Nat} {taken : Bytes}
    (ran : fill count source = some (.ok taken, left)) :
    taken = bytes.take count ∧ left.Holds (bytes.drop count) := by
  obtain ⟨rest, filled, kept⟩ := yields_fill count bytes source holds
  cases ran.symm.trans filled
  exact ⟨rfl, kept⟩

/-- A frame was extended by as many bytes as were asked for. -/
theorem extend_ok (holds : source.Holds bytes) {frame whole : Bytes} {count : Nat}
    (ran : extend frame count source = some (.ok whole, left)) :
    ∃ more rest, more.length = count ∧ bytes = more ++ rest ∧ whole = frame ++ more ∧
      left.Holds rest := by
  -- What was filled in is the front of the bytes.
  obtain ⟨taken, middle, filled, next⟩ := bind_ok ran
  obtain ⟨rfl, kept⟩ := fill_ok holds filled
  split at next
  · cases next
  · -- Not fewer came than were asked for, and filling never brings more.
    rename_i enough
    cases next
    have length : (bytes.take count).length = count := by
      rw [List.length_take] at enough ⊢
      omega
    exact ⟨_, _, length, (List.take_append_drop count bytes).symm, rfl, kept⟩

end

variable [Platform]

/-- A piece is read as the unit that it is, and what follows it is left. -/
theorem yields_read_piece (piece : Piece) (rest : Bytes) :
    Yields read (piece.written ++ rest) (.ok (some piece.frame)) rest := by
  -- A message and the end of a stream are read by lemmas of their own.
  cases piece with
  | message packet =>
    rw [Piece.written_message]
    exact yields_read_packet packet rest
  | stop marked =>
    rw [Piece.written, Piece.content, List.append_nil]
    exact yields_read_end marked rest

section

variable {bytes part : Bytes}

/-- Behind its length, a piece that is cut short fails with all that was read of it. -/
theorem yields_readUnit_part (piece : Piece) (header : Bytes) (front : part <+: piece.content)
    (short : part ≠ piece.content) :
    Yields (readUnit header (Bytes.ofNat 4 piece.size)) part
      (.error (.ofRaw "truncated arrow ipc message" (opening true piece.size ++ part))) [] := by
  cases piece with
  | stop marked => exact absurd (List.prefix_nil.mp front) short
  | message packet =>
    rw [Piece.size, readUnit_packet]
    rcases part_of_append front with ⟨inside, cut⟩ | ⟨body, inside, rfl⟩
    · -- Some of the metadata are missing already.
      exact yields_bind_error (yields_extend_short _ (length_lt_of_part inside cut))
    · -- The metadata are there, so it is the body that is cut short.
      have few := length_lt_of_part inside fun same => short (by rw [same]; rfl)
      refine yields_bind (yields_extend _ rfl body) ?_
      rw [readBody_packet, ← List.append_assoc]
      exact yields_bind_error (yields_extend_short _ few)

/-- Fewer bytes than a length takes are no piece, but what is reported of one. -/
theorem yields_read_few (present : part ≠ []) (few : part.length < 4) :
    Yields read part (.error (.ofRaw "truncated arrow ipc message header" part)) [] := by
  have filled := yields_fill 4 part
  rw [List.take_of_length_le (Nat.le_of_lt few), List.drop_of_length_le (Nat.le_of_lt few)] at filled
  refine yields_bind filled ?_
  -- Only where nothing at all is there, the output has ended.
  have some : part.isEmpty = false := by simpa using present
  simp only [some, Bool.false_eq_true, if_false]
  refine yields_bind_error ?_
  simp only [readFrom, if_pos few]
  exact yields_throw _ []

/-- A marker without a whole length behind it is no piece, but what is reported of one. -/
theorem yields_read_marker (few : part.length < 4) :
    Yields read (marker ++ part)
      (.error (.ofRaw "truncated arrow ipc message header" (marker ++ part))) [] := by
  have filled : Yields (fill 4) (marker ++ part) (.ok marker) part := yields_fill 4 (marker ++ part)
  -- The marker is read as such, so it is the length that is missing.
  have behind := yields_fill 4 part
  rw [List.take_of_length_le (Nat.le_of_lt few), List.drop_of_length_le (Nat.le_of_lt few)] at behind
  refine yields_bind filled (yields_bind_error (yields_bind behind ?_))
  rw [if_pos few]
  exact yields_throw _ []

/-- A piece that is cut short fails with what is reported of it. -/
theorem yields_read_part (piece : Piece) (present : part ≠ []) (front : part <+: piece.written)
    (short : part ≠ piece.written) :
    ∃ message, Yields read part (.error (.ofRaw message (piece.reported part))) [] := by
  rcases part_of_append front with ⟨inside, cut⟩ | ⟨content, inside, rfl⟩
  · by_cases few : part.length < 4
    · rw [piece.reported_of_few few]
      exact ⟨_, yields_read_few present few⟩
    · -- The marker is there and a part of the length.
      have less := length_lt_of_part inside cut
      obtain ⟨marked, length, rfl⟩ := marker_prefix_of_part inside cut (Nat.le_of_not_lt few)
      rw [Piece.reported_of_marked marked]
      refine ⟨_, yields_read_marker ?_⟩
      rw [opening, if_pos marked, List.length_append, List.length_append,
        Bytes.length_ofNat] at less
      exact Nat.lt_of_add_lt_add_left less
  · -- Marker and length are there, so what stands behind them is cut short.
    have unit (header : Bytes) := yields_readUnit_part piece header inside
      fun same => short (by rw [same, Piece.written])
    rw [piece.reported_opening]
    exact ⟨_, yields_read_opening piece.size_le piece.marked unit⟩

end

section

variable {source left : Source} {bytes : Bytes}

/-- A body was read as the metadata announce it. -/
theorem readBody_ok (holds : source.Holds bytes) {frame : Bytes} {unit : Frame}
    (ran : readBody frame source = some (.ok unit, left)) :
    ∃ message body rest, Message.ofBytes? (frame.drop 8) = some message ∧
      message.bodyLength = body.length ∧ body.length ≤ maxBody ∧ bytes = body ++ rest ∧
      unit = .message (frame ++ body) ∧ left.Holds rest := by
  unfold readBody at ran
  -- Metadata that cannot be read bring no unit.
  cases parsed : Message.ofBytes? (frame.drop 8) with
  | none =>
    rw [parsed] at ran
    cases ran
  | some message =>
    simp only [parsed] at ran
    split at ran
    · cases ran
    · -- The length that the metadata announce is within the limits, so a body of it follows.
      rename_i inside
      obtain ⟨whole, middle, extended, next⟩ := bind_ok ran
      obtain ⟨body, rest, length, split, rfl, kept⟩ := extend_ok holds extended
      cases next
      exact ⟨message, body, rest, rfl, by omega, by omega, split, rfl, kept⟩

/-- What was read behind a length is the content of a piece of that length. -/
theorem readUnit_ok (holds : source.Holds bytes) {header length : Bytes}
    (four : length.length = 4) (marked : Bool) {unit : Frame}
    (ran : readUnit header length source = some (.ok unit, left)) :
    ∃ (piece : Piece) (rest : Bytes), piece.marked = marked ∧ length = Bytes.ofNat 4 piece.size ∧
      bytes = piece.content ++ rest ∧ unit = piece.frame ∧ left.Holds rest := by
  simp only [readUnit] at ran
  split at ran
  · -- A length of zero is the end of a stream.
    rename_i zero
    cases ran
    exact ⟨.stop marked, bytes, rfl, ofNat_toInt four zero, rfl, rfl, holds⟩
  · split at ran
    · cases ran
    · rename_i some inside
      -- Otherwise metadata of that length come first, and the body that they announce second.
      obtain ⟨frame, middle, extended, next⟩ := bind_ok ran
      obtain ⟨metadata, behind, size, rfl, rfl, kept⟩ := extend_ok holds extended
      obtain ⟨message, body, rest, parsed, announced, bodyFits, rfl, rfl, left⟩ :=
        readBody_ok kept next
      have same : length = Bytes.ofNat 4 metadata.length := ofNat_toInt four (by omega)
      -- The metadata are parsed behind marker and length, which are eight bytes.
      have all : (marker ++ length ++ metadata).drop 8 = metadata :=
        List.drop_left' (by simp [marker, four])
      rw [all] at parsed
      let packet : Packet :=
        { marked, metadata, message, body, parsed, announced, bodyFits,
          metadataFits := by omega }
      refine ⟨.message packet, rest, rfl, same, (List.append_assoc _ _ _).symm, ?_, left⟩
      rw [Piece.frame, Packet.frame, opening, ← same]
      rfl

/-- What was read as a unit is a piece, and what is behind it is left. -/
theorem read_ok (holds : source.Holds bytes) {unit : Frame}
    (ran : read source = some (.ok (some unit), left)) :
    ∃ (piece : Piece) (rest : Bytes), bytes = piece.written ++ rest ∧ unit = piece.frame ∧ left.Holds rest := by
  -- The walk follows the reading: four bytes first, and then what they are.
  obtain ⟨first, middle, filled, next⟩ := bind_ok ran
  obtain ⟨rfl, kept⟩ := fill_ok holds filled
  have split := List.take_append_drop 4 bytes
  split at next
  · cases next
  · obtain ⟨held, after, inner, final⟩ := bind_ok next
    cases final
    unfold readFrom at inner
    split at inner
    · cases inner
    · rename_i present enough
      -- Fewer than four bytes would have been a failure.
      have four : (bytes.take 4).length = 4 := by
        rw [List.length_take] at enough ⊢
        omega
      split at inner
      · -- Behind a marker stands the length.
        rename_i first
        obtain ⟨length, behind, filled, onward⟩ := bind_ok inner
        obtain ⟨rfl, kept⟩ := fill_ok kept filled
        split at onward
        · cases onward
        · rename_i whole
          have size : ((bytes.drop 4).take 4).length = 4 := by
            rw [List.length_take] at whole ⊢
            omega
          obtain ⟨piece, rest, marked, length, content, rfl, left⟩ := readUnit_ok kept size true onward
          refine ⟨piece, rest, ?_, rfl, left⟩
          rw [← split, ← List.take_append_drop 4 (bytes.drop 4), content, length, first,
            Piece.written, marked, opening, if_pos rfl, List.append_assoc, List.append_assoc]
      · -- Without a marker the first four bytes are the length.
        obtain ⟨piece, rest, marked, length, content, rfl, left⟩ := readUnit_ok kept four false inner
        refine ⟨piece, rest, ?_, rfl, left⟩
        rw [← split, content, length, Piece.written, marked, opening, if_neg Bool.false_ne_true,
          List.nil_append, List.append_assoc]

/-- Only where no bytes are left there is no unit. -/
theorem read_none (holds : source.Holds bytes) (ran : read source = some (.ok none, left)) :
    bytes = [] := by
  obtain ⟨first, middle, filled, next⟩ := bind_ok ran
  obtain ⟨rfl, kept⟩ := fill_ok holds filled
  split at next
  · rename_i empty
    simpa using empty
  · -- Behind a first byte a unit comes, or a failure.
    obtain ⟨held, after, inner, final⟩ := bind_ok next
    cases final

end

end Frame

end EngineClient.Arrow
