import EngineClient.Proofs.Arrow.Messages

/-! Whether all batches of an output with Arrow streams are handed out, and when some are lost. -/

namespace EngineClient.Arrow

/-- Whether a packet brings a dictionary or a batch. -/
def Packet.bringsData (packet : Packet) : Bool :=
  match packet.message.header with
  | .dictionary _ _ _ | .batch _ => true
  | _ => false

/-- A well-formed stream: a message with a named schema, then dictionaries and batches that are valid
for it, and the mark of its end. -/
structure Stream where
  /-- The name of the schema. -/
  name : String
  /-- The schema. -/
  schema : Schema
  /-- The message with the schema. -/
  opening : Packet
  /-- The messages behind it. -/
  packets : List Packet
  /-- The batches that they bring. -/
  batches : List Batch
  /-- Whether a marker precedes the mark of the end; older writers leave it out. -/
  marked : Bool
  opens : opening.message.header = .schema (some schema)
  named : schema.name? = some name
  brings : ∀ packet ∈ packets, packet.bringsData = true
  valid : Assembly.decode {} (opening :: packets) = some batches

namespace Stream

/-- All messages of a stream. -/
def messages (stream : Stream) : List Packet :=
  stream.opening :: stream.packets

/-- The stream in the output. -/
def written (stream : Stream) : Bytes :=
  stream.messages.flatMap Packet.written ++ Frame.opening stream.marked 0

/-- The batches of the stream under its name. -/
def tagged (stream : Stream) : List NamedBatch :=
  stream.batches.map (Batch.tag stream.name)

/-- What is handed out of the stream: the batches of the messages that take effect. -/
def heard (stream : Stream) : Option (List NamedBatch) :=
  (Assembly.decode {} (Packet.heeded stream.messages)).map (List.map (Batch.tag stream.name))

/-- Whether the messages that take effect bring all batches of the stream. -/
def IsWhole (stream : Stream) : Prop :=
  Assembly.decode {} (Packet.heeded stream.messages) = some stream.batches

/-- A batch is told by what it is under a name. -/
theorem tag_injective {name : String} {one other : Batch}
    (same : one.tag name = other.tag name) : one = other := by
  cases one
  cases other
  cases same
  rfl

/-- A stream is whole when all its batches are handed out. -/
theorem isWhole_iff (stream : Stream) : stream.IsWhole ↔ stream.heard = some stream.tagged := by
  -- The name is put on all batches alike, so it can be taken off again.
  unfold IsWhole heard tagged
  constructor
  · intro whole
    rw [whole, Option.map_some]
  · intro heard
    obtain ⟨batches, kept, same⟩ := Option.map_eq_some_iff.mp heard
    rw [kept, (List.map_inj_right fun _ _ => tag_injective).mp same]

/-- No more batches are handed out of a stream than it has. -/
theorem heard_length_le {stream : Stream} {named : List NamedBatch}
    (heard : stream.heard = some named) : named.length ≤ stream.tagged.length := by
  -- Both are counted by the messages that bring a batch.
  obtain ⟨batches, kept, rfl⟩ := Option.map_eq_some_iff.mp heard
  rw [tagged, List.length_map, List.length_map, Assembly.decode_length kept,
    Assembly.decode_length stream.valid]
  exact Packet.countP_heeded_le stream.messages

/-- What is handed out of streams, one after another. -/
def heardAll : List Stream → Option (List NamedBatch)
  | [] => some []
  | stream :: rest =>
    match stream.heard with
    | some named => (heardAll rest).map (named ++ ·)
    | none => none

/-- No more batches are handed out of streams than they have. -/
theorem heardAll_length_le {streams : List Stream} {named : List NamedBatch}
    (heard : heardAll streams = some named) : named.length ≤ (streams.flatMap tagged).length := by
  -- What is handed out of all streams is what is handed out of each.
  induction streams generalizing named with
  | nil =>
    cases heard
    exact Nat.le_refl _
  | cons stream rest ih =>
    rw [heardAll] at heard
    split at heard
    · rename_i first kept
      obtain ⟨others, behind, rfl⟩ := Option.map_eq_some_iff.mp heard
      have := heard_length_le kept
      have := ih behind
      simp only [List.flatMap_cons, List.length_append]
      omega
    · cases heard

/-- All batches of streams are handed out exactly if every stream is whole. -/
theorem heardAll_eq_iff (streams : List Stream) :
    heardAll streams = some (streams.flatMap tagged) ↔ ∀ stream ∈ streams, stream.IsWhole := by
  -- The induction is on the streams, each of which brings its own batches or fails.
  induction streams with
  | nil => simp [heardAll]
  | cons stream rest ih =>
    rw [List.forall_mem_cons, ← ih, isWhole_iff, heardAll, List.flatMap_cons]
    cases kept : stream.heard with
    | none => simp
    | some named =>
      constructor
      · intro heard
        obtain ⟨others, behind, same⟩ := Option.map_eq_some_iff.mp heard
        -- What a stream lacks cannot be made up for by the others, which have no more than theirs.
        have atMost := heard_length_le kept
        have atMostBehind := heardAll_length_le behind
        have lengths := congrArg List.length same
        simp only [List.length_append] at lengths
        obtain ⟨first, second⟩ := List.append_inj same (by omega)
        exact ⟨by rw [first], by rw [behind, second]⟩
      · rintro ⟨first, second⟩
        cases first
        simp only [second, Option.map_some]

/-- The name of a stream is the name of everything in it. -/
theorem under (stream : Stream) : ∀ packet ∈ stream.messages, packet.Under stream.name := by
  -- Only the message at the beginning brings a schema.
  intro packet member schema header
  rcases List.mem_cons.mp member with rfl | behind
  · rw [stream.opens] at header
    cases header
    exact stream.named
  · have brings := stream.brings packet behind
    simp [Packet.bringsData, header] at brings

end Stream

namespace Batches

/-- A fresh reader is before the first stream. -/
theorem stands_fresh {source : Source} {bytes : Bytes} (holds : source.Holds bytes) :
    Stands { source } {} bytes :=
  ⟨holds, rfl, rfl⟩

/-- A reader hands out what is handed out of the streams before it, and then finds the end. -/
theorem comes_streams [Platform] (streams : List Stream) {reader : Batches}
    (stands : reader.Stands {} (streams.flatMap Stream.written)) :
    Comes reader (Stream.heardAll streams) (Stands · {} []) := by
  -- Behind each stream the reader stands as fresh before the others.
  induction streams generalizing reader with
  | nil => exact ⟨reader, .same rfl, stands⟩
  | cons stream rest ih =>
    simp only [List.flatMap_cons, Stream.written, List.append_assoc] at stands
    -- A stream that has not begun has no schema, so any name fits it.
    have fresh : Assembly.Under stream.name {} := by
      intro schema held
      cases held
    have first : Comes reader stream.heard (Stands · {} (rest.flatMap Stream.written)) :=
      (handsOut_heeded stream.under Assembly.atRest_fresh fresh).1 stands
    rw [Stream.heardAll]
    cases heard : stream.heard with
    | none =>
      rw [heard] at first
      exact first
    | some named =>
      rw [heard] at first
      obtain ⟨after, passes, begins⟩ := first
      exact passes.comes (ih begins)

/-- The answers that batches are. -/
def answersOf (named : List NamedBatch) : List (Except Error (Option NamedBatch)) :=
  named.map fun batch => .ok (some batch)

/-- The end of the output is no batch. -/
theorem end_not_mem (named : List NamedBatch) : .ok none ∉ answersOf named := by
  simp [answersOf]

/-- Batches are told by the answers that they are. -/
theorem answersOf_injective {one other : List NamedBatch} (same : answersOf one = answersOf other) :
    one = other :=
  (List.map_inj_right fun _ _ equal => by simpa using equal).mp same

variable [Platform]

/-- A reader at the end of the output answers the end for ever. -/
theorem answersTo_end {reader : Batches} {assembly : Assembly} (stands : reader.Stands assembly [])
    (count : Nat) :
    answersTo nextBatch count reader = some (List.replicate count (.ok none)) := by
  -- The end leaves the reader at the end.
  induction count generalizing reader with
  | zero => rfl
  | succ count ih =>
    obtain ⟨after, behind, fetched⟩ := fetch_nil stands
    rw [← nextBatch_eq stands.held] at fetched
    rw [answersTo_succ fetched, ih behind]
    rfl

/-- A reader answers the batches that it passes, and then the end of the output for ever. -/
theorem Passes.answersTo_eq {reader after : Batches} {named : List NamedBatch}
    {assembly : Assembly} (passes : Passes reader named after) (held : reader.held = none)
    (stands : after.Stands assembly []) (count : Nat) :
    answersTo nextBatch count reader
      = some (answersThen (answersOf named) (.ok none) count) := by
  -- The induction is on the batches that are passed.
  induction passes generalizing count with
  -- A reader that does what one at the end does answers the end, from the first call on.
  | @same one other fetched =>
    have ends := answersTo_end stands count
    cases count with
    | zero => rfl
    | succ count =>
      rw [answersTo, nextBatch_eq stands.held] at ends
      rw [answersTo, nextBatch_eq held, fetched, ends, answersOf, List.map_nil, answersThen_nil]
  | @batch one middle other named rest fetched behind ih =>
    cases count with
    | zero => rfl
    | succ count =>
      have kept : middle.held = none := (fetch_held one fetched).trans held
      rw [← nextBatch_eq held] at fetched
      rw [answersTo_succ fetched, ih kept stands]
      exact congrArg some (answersThen_cons _ _ _ count).symm

/-- A reader that fails in the end answers a failure after some calls. -/
theorem Breaks.answersTo_error {reader : Batches} (breaks : Breaks reader)
    (held : reader.held = none) :
    ∃ count answers error, answersTo nextBatch count reader = some answers ∧
      .error error ∈ answers := by
  -- One call more is needed for each batch before the failure.
  induction breaks with
  | @now reader after error fetched =>
    rw [← nextBatch_eq held] at fetched
    exact ⟨1, [.error error], error, by rw [answersTo_succ fetched]; rfl, List.mem_cons_self⟩
  | @batch reader middle named fetched behind ih =>
    obtain ⟨count, answers, error, answered, member⟩ := ih ((fetch_held reader fetched).trans held)
    rw [← nextBatch_eq held] at fetched
    -- The batch comes first, and then the calls that lead to the failure.
    refine ⟨count + 1, .ok (some named) :: answers, error, ?_, List.mem_cons_of_mem _ member⟩
    rw [answersTo_succ fetched, answered]
    rfl

end Batches

namespace Stream

/-- All batches of an output are answered, each once, in order and under the name of its stream, and
then the end of the output for ever. -/
def AllAnswered [Platform] (streams : List Stream) : Prop :=
  ∀ source : Source, source.Holds (streams.flatMap written) → ∀ count,
    answersTo Batches.nextBatch count { source }
      = some (answersThen (Batches.answersOf (streams.flatMap tagged)) (.ok none) count)

/-- All batches of an output are answered exactly if all are handed out. -/
theorem allAnswered_iff [Platform] (streams : List Stream) :
    AllAnswered streams ↔ heardAll streams = some (streams.flatMap tagged) := by
  constructor
  · -- Of a stream that breaks some call fails, and one that passes is answered by its batches.
    intro answered
    have holds := Source.holds_data (streams.flatMap written)
    have comes := Batches.comes_streams streams (Batches.stands_fresh holds)
    cases heard : heardAll streams with
    | none =>
      -- A failure is none of the answers.
      rw [heard] at comes
      obtain ⟨count, answers, error, failed, member⟩ :=
        Batches.Breaks.answersTo_error comes rfl
      rw [answered _ holds count] at failed
      cases failed
      rcases mem_answersThen member with given | last
      · simp [Batches.answersOf] at given
      · cases last
    | some named =>
      rw [heard] at comes
      obtain ⟨after, passes, ends⟩ := comes
      -- Answers for every count tell all batches, as the end is none of them.
      refine congrArg some (Batches.answersOf_injective ?_)
      refine answersThen_injective (Batches.end_not_mem named) (Batches.end_not_mem _) fun count => ?_
      have both := passes.answersTo_eq rfl ends count
      rw [answered _ holds count] at both
      exact (Option.some.inj both).symm
  · intro heard source holds count
    have comes := Batches.comes_streams streams (Batches.stands_fresh holds)
    rw [heard] at comes
    obtain ⟨after, passes, ends⟩ := comes
    exact passes.answersTo_eq rfl ends count

/-- A stream in which every batch has a body is whole. -/
theorem isWhole_of_bodies {stream : Stream}
    (present : ∀ packet ∈ stream.packets, packet.isBatch = true → packet.body ≠ []) :
    stream.IsWhole := by
  -- The message with the schema is no batch, so it needs no body.
  refine Assembly.decode_heeded (fun packet member batch => ?_) stream.valid
  rcases List.mem_cons.mp member with rfl | behind
  · simp [Packet.isBatch, Message.isBatch, stream.opens] at batch
  · exact present packet behind batch

/-- A stream in which a batch without a body is the last message or right before another batch is
not whole. -/
theorem not_isWhole_of_loses {stream : Stream} (loses : Packet.Loses stream.packets) :
    ¬stream.IsWhole :=
  Assembly.decode_heeded_ne loses.later stream.valid

/-- A stream of batches alone is whole exactly if each of them has a body. -/
theorem isWhole_iff_of_batches {stream : Stream}
    (batches : ∀ packet ∈ stream.packets, packet.isBatch = true) :
    stream.IsWhole ↔ ∀ packet ∈ stream.packets, packet.body ≠ [] := by
  -- An empty body among batches loses a batch.
  constructor
  · intro whole packet member empty
    exact not_isWhole_of_loses (.of_empty batches ⟨packet, member, empty⟩) whole
  · intro present
    exact isWhole_of_bodies fun packet member _ => present packet member

/-- The batches of an output are answered, each once, in order and under the name of its stream,
exactly if those messages bring them that take effect. That is so where every batch has a body, and
not so where a batch without a body is the last message of a stream or right before another batch;
so a stream of batches alone has to have a body in each of them. -/
theorem allAnswered_iff_isWhole [Platform] (streams : List Stream) :
    (AllAnswered streams ↔ ∀ stream ∈ streams, stream.IsWhole) ∧
    ∀ stream ∈ streams,
      ((∀ packet ∈ stream.packets, packet.isBatch = true → packet.body ≠ []) → stream.IsWhole) ∧
      (Packet.Loses stream.packets → ¬stream.IsWhole) ∧
      ((∀ packet ∈ stream.packets, packet.isBatch = true) →
        (stream.IsWhole ↔ ∀ packet ∈ stream.packets, packet.body ≠ [])) :=
  ⟨(allAnswered_iff streams).trans (heardAll_eq_iff streams),
    fun _ _ => ⟨isWhole_of_bodies, not_isWhole_of_loses, isWhole_iff_of_batches⟩⟩

/-- A schema without columns, whose name is `s.a`. -/
def columnlessSchema : Schema :=
  ⟨[], [("TENZIR:name:0", "s.a")]⟩

/-- The metadata of the message with the schema. -/
def columnlessSchemaMetadata : Bytes :=
  [16, 0, 0, 0, 0, 0, 10, 0, 14, 0, 12, 0, 11, 0, 4, 0, 10, 0, 0, 0, 20, 0, 0, 0, 0, 0, 0, 1, 4,
    0, 10, 0, 12, 0, 0, 0, 8, 0, 4, 0, 10, 0, 0, 0, 8, 0, 0, 0, 60, 0, 0, 0, 1, 0, 0, 0, 12, 0, 0,
    0, 8, 0, 12, 0, 8, 0, 4, 0, 8, 0, 0, 0, 8, 0, 0, 0, 12, 0, 0, 0, 3, 0, 0, 0, 115, 46, 97, 0,
    13, 0, 0, 0, 84, 69, 78, 90, 73, 82, 58, 110, 97, 109, 101, 58, 48, 0, 0, 0, 0, 0, 0, 0]

/-- The message with the schema. -/
def columnlessOpening : Packet where
  marked := true
  metadata := columnlessSchemaMetadata
  message := ⟨4, .schema (some columnlessSchema), 0⟩
  body := []
  parsed := by rfl
  metadataFits := by decide
  announced := rfl
  bodyFits := by decide

/-- The metadata of a message with a batch of some rows under the schema. -/
def columnlessRowsMetadata (rows : Nat) : Bytes :=
  [20, 0, 0, 0, 0, 0, 0, 0, 0, 0, 10, 0, 14, 0, 12, 0, 11, 0, 4, 0, 10, 0, 0, 0, 20, 0, 0, 0, 0,
    0, 0, 3, 4, 0, 10, 0, 20, 0, 12, 0, 8, 0, 4, 0, 10, 0, 0, 0, 20, 0, 0, 0, 12, 0, 0, 0]
    ++ Bytes.ofNat 8 rows ++ [0, 0, 0, 0, 0, 0, 0, 0]

/-- What the metadata of such a message tell. -/
def columnlessMessage (rows : Nat) : Message :=
  ⟨4, .batch (some ⟨.ofNat rows, [], [], none, []⟩), 0⟩

/-- The message with a batch of some rows under the schema. -/
def columnlessPacket (rows : Nat)
    (parsed : Message.ofBytes? (columnlessRowsMetadata rows) = some (columnlessMessage rows)) : Packet where
  marked := true
  metadata := columnlessRowsMetadata rows
  message := columnlessMessage rows
  body := []
  parsed := parsed
  metadataFits := by simp [columnlessRowsMetadata, Frame.maxMetadata]
  announced := rfl
  bodyFits := by decide

/-- The metadata of a batch of two rows tell it. -/
theorem columnlessRows_two :
    Message.ofBytes? (columnlessRowsMetadata 2) = some (columnlessMessage 2) := by
  rfl

/-- The metadata of a batch of one row tell it. -/
theorem columnlessRows_one :
    Message.ofBytes? (columnlessRowsMetadata 1) = some (columnlessMessage 1) := by
  rfl

/-- The messages with a batch of two rows and with one of one row. -/
def columnlessPackets : List Packet :=
  [columnlessPacket 2 columnlessRows_two, columnlessPacket 1 columnlessRows_one]

/-- Both of them bring data. -/
theorem columnlessPackets_bring : ∀ packet ∈ columnlessPackets, packet.bringsData = true := by
  decide

/-- The batches that they bring. -/
def columnlessBatches : List Batch :=
  [⟨columnlessSchema, .bare 2⟩, ⟨columnlessSchema, .bare 1⟩]

/-- Both of them are valid for the schema. -/
theorem columnlessPackets_valid :
    Assembly.decode {} (columnlessOpening :: columnlessPackets) = some columnlessBatches := by
  rfl

/-- A stream with a batch of two rows and one of one row, of which none has a column. -/
def columnless : Stream where
  name := "s.a"
  schema := columnlessSchema
  opening := columnlessOpening
  packets := columnlessPackets
  batches := columnlessBatches
  marked := true
  opens := rfl
  named := rfl
  brings := columnlessPackets_bring
  valid := columnlessPackets_valid

open scoped Platform in
/-- Of a batch of two rows and one of one row, of which none has a column, only the first is
answered. -/
theorem not_allAnswered_columnless :
    ¬AllAnswered [columnless] ∧
      ∀ source : Source, source.Holds columnless.written →
        answersTo Batches.nextBatch 2 { source }
          = some [.ok (some ⟨"s.a", columnlessSchema, .bare 2⟩), .ok none] := by
  constructor
  · -- The second batch of the stream has no body and follows one without a body, so it is lost.
    rw [allAnswered_iff, heardAll_eq_iff]
    intro whole
    exact not_isWhole_of_loses (.next rfl rfl rfl) (whole columnless List.mem_cons_self)
  · intro source holds
    -- What is heard of the stream is its first batch.
    have heard : heardAll [columnless] = some [⟨"s.a", columnlessSchema, .bare 2⟩] := by rfl
    have alone : [columnless].flatMap written = columnless.written := List.append_nil _
    have comes := Batches.comes_streams [columnless] (Batches.stands_fresh (alone ▸ holds))
    rw [heard] at comes
    obtain ⟨after, passes, ends⟩ := comes
    exact passes.answersTo_eq rfl ends 2

/-- The most rows that a message with a batch can tell of. -/
def mostRows : Nat := Nat.pow 2 63 - 1

/-- The metadata of a batch of that many rows tell it. -/
theorem columnlessRows_most :
    Message.ofBytes? (columnlessRowsMetadata mostRows) = some (columnlessMessage mostRows) := by
  rfl

/-- A stream with six batches of as many rows as can be told of, of which none has a column. -/
def countless : Stream where
  name := "s.a"
  schema := columnlessSchema
  opening := columnlessOpening
  packets := List.replicate 6 (columnlessPacket mostRows columnlessRows_most)
  batches := List.replicate 6 ⟨columnlessSchema, .bare mostRows⟩
  marked := true
  opens := rfl
  named := rfl
  brings := by decide
  valid := by rfl

/-- The batch that is handed out of the stream again and again. -/
def countlessBatch : NamedBatch :=
  ⟨"s.a", columnlessSchema, .bare mostRows⟩

/-- Every other batch is swallowed, so three of them are handed out. -/
theorem heardAll_countless : heardAll [countless] = some (List.replicate 3 countlessBatch) := by
  rfl

end Stream

end EngineClient.Arrow
