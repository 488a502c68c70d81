import EngineClient.Proofs.Arrow.Pieces
import EngineClient.Proofs.Arrow.Streams

/-! What is read of an output that is cut short: the batches before the cut, and then a failure unless
the cut is between two pieces. -/

namespace EngineClient.Arrow

/-- What comes of a piece that a stream is fed, which may be a batch under its name. -/
def Assembly.takeIn [Platform] (assembly : Assembly) :
    Piece → Except Error (Option NamedBatch) × Assembly
  | .stop _ => (.ok none, {})
  | .message packet =>
    match assembly.feed packet.frame with
    | (.more, after) => (.ok none, after)
    | (.broken, after) => (.error (Batches.undecodable after packet.frame), after)
    | (.batch batch, after) =>
      match NamedBatch.ofBatch? batch with
      | some named => (.ok (some named), after)
      | none => (.error (Batches.unnamed packet.frame), after)

namespace Assembly

variable [Platform]

/-- What a message leaves behind is what feeding its frame does. -/
theorem takeIn_snd (assembly : Assembly) (packet : Packet) :
    (assembly.takeIn (.message packet)).2 = (assembly.feed packet.frame).2 := by
  simp only [takeIn]
  -- Each way of taking in the message leaves the stream as it was fed.
  split
  · rename_i fed
    rw [fed]
  · rename_i fed
    rw [fed]
  · rename_i fed
    rw [fed]
    split <;> rfl

/-- What is reported of a message is reported as a breach of the format, with the frame of it. -/
theorem takeIn_error {assembly : Assembly} {packet : Packet} {error : Error}
    (failed : (assembly.takeIn (.message packet)).1 = .error error) :
    error.kind = .protocol ∧ error.raw = some packet.frame := by
  -- A message fails if it is broken or if its batch has no name.
  simp only [takeIn] at failed
  split at failed
  · cases failed
  · cases failed
    exact ⟨rfl, rfl⟩
  · split at failed
    · cases failed
    · cases failed
      exact ⟨rfl, rfl⟩

/-- A message without a body that finds its place only waits in it. -/
theorem takeIn_empty {actual place : Assembly} {packet : Packet}
    (fed : actual.feed packet.frame = place.taken packet) (empty : packet.body = []) :
    actual.takeIn (.message packet) = (.ok none, place.awaiting packet.message) := by
  rw [taken, if_pos empty] at fed
  simp only [takeIn, fed]

end Assembly

namespace Batches

section

variable {reader : Batches} {assembly : Assembly} {piece : Piece} {rest : Bytes}

variable [Platform]

/-- Reading a batch takes in the next piece, and goes on behind it where it brings none. -/
theorem nextBatch_piece (stands : reader.Stands assembly (piece.written ++ rest)) :
    ∃ next : Batches, next.Stands (assembly.takeIn piece).2 rest ∧
      reader.nextBatch = match (assembly.takeIn piece).1 with
        | .ok none => next.nextBatch
        | .ok (some named) => some (.ok (some named), next)
        | .error error => some (.error error, next) := by
  obtain ⟨source, ran, holds⟩ := Frame.yields_read_piece piece rest reader.source stands.source
  -- No rows are held before the piece, and none behind it.
  have onward (after : Assembly) : nextBatch { reader with source, assembly := after }
      = fetch { reader with source, assembly := after } := nextBatch_eq stands.held
  refine ⟨{ reader with source, assembly := (assembly.takeIn piece).2 },
    ⟨holds, rfl, stands.held⟩, ?_⟩
  rw [nextBatch_eq stands.held]
  cases piece with
  | stop marked =>
    -- The end of a stream brings nothing, and a new stream begins behind it.
    rw [fetch_eq, ran]
    exact (onward {}).symm
  | message packet =>
    -- What a message brings, the stream that it belongs to decides.
    rw [fetch_frame ran, stands.assembly]
    simp only [Assembly.takeIn]
    obtain ⟨outcome, after⟩ := assembly.feed packet.frame
    cases outcome with
    | more => exact (onward after).symm
    | broken => rfl
    | batch batch =>
      simp only [fed]
      cases NamedBatch.ofBatch? batch <;> rfl

/-- An output that is read to its end behind a piece brings first what comes of the piece. -/
theorem exhausts_of_piece (stands : reader.Stands assembly (piece.written ++ rest))
    {batches : List NamedBatch} {after : Batches}
    (reads : Exhausts nextBatch reader batches (.ok ()) after) :
    ∃ (brought : Option NamedBatch) (others : List NamedBatch) (next : Batches),
      (assembly.takeIn piece).1 = .ok brought ∧ batches = brought.toList ++ others ∧
        next.Stands (assembly.takeIn piece).2 rest ∧
        Exhausts nextBatch next others (.ok ()) after := by
  obtain ⟨next, begins, ran⟩ := nextBatch_piece stands
  rcases brought : (assembly.takeIn piece).1 with error | (_ | named)
  · -- A failure would have been the end.
    rw [brought] at ran
    exact absurd ran reads.not_failed
  · -- A piece that brings nothing leaves all batches to those behind it.
    rw [brought] at ran
    exact ⟨none, batches, next, rfl, rfl, begins, reads.of_same ran.symm⟩
  · rw [brought] at ran
    obtain ⟨others, rfl, behind⟩ := reads.of_item ran
    exact ⟨some named, others, next, rfl, rfl, begins, behind⟩

/-- What comes of a piece comes before all that is read behind it. -/
theorem exhausts_behind (stands : reader.Stands assembly (piece.written ++ rest))
    {brought : Option NamedBatch} (taken : (assembly.takeIn piece).1 = .ok brought) :
    ∃ next : Batches, next.Stands (assembly.takeIn piece).2 rest ∧
      ∀ others last after, Exhausts nextBatch next others last after →
        Exhausts nextBatch reader (brought.toList ++ others) last after := by
  obtain ⟨next, begins, ran⟩ := nextBatch_piece stands
  rw [taken] at ran
  refine ⟨next, begins, fun others last after reads => ?_⟩
  -- Without a batch the reader goes on as the next one does.
  cases brought with
  | none => exact reads.of_same ran
  | some named => exact .item ran reads

/-- At the end of the output no batch is read. -/
theorem nextBatch_nil (stands : reader.Stands assembly []) :
    ∃ after, reader.nextBatch = some (.ok none, after) := by
  obtain ⟨after, ends, fetched⟩ := fetch_nil stands
  exact ⟨after, (nextBatch_eq stands.held).trans fetched⟩

/-- A piece that is cut short is no batch, but a failure that reports it. -/
theorem nextBatch_part {part : Bytes} (stands : reader.Stands assembly part) (present : part ≠ [])
    (front : part <+: piece.written) (short : part ≠ piece.written) :
    ∃ message after,
      reader.nextBatch = some (.error (.ofRaw message (piece.reported part)), after) := by
  obtain ⟨message, yields⟩ := Frame.yields_read_part piece present front short
  obtain ⟨source, ran, holds⟩ := yields reader.source stands.source
  refine ⟨message, { reader with source }, ?_⟩
  rw [nextBatch_eq stands.held, fetch_eq, ran]

end

/-- An output that is read to its end is made of pieces. -/
theorem exists_pieces [Platform] {reader : Batches} {assembly : Assembly} {bytes : Bytes}
    (stands : reader.Stands assembly bytes) {batches : List NamedBatch} {after : Batches}
    (reads : Exhausts nextBatch reader batches (.ok ()) after) :
    ∃ pieces : List Piece, bytes = pieces.flatMap Piece.written := by
  -- The induction is on the bytes that are left, of which a piece takes at least one.
  induction sized : bytes.length using Nat.strongRecOn
    generalizing reader assembly bytes batches with
  | ind size ih =>
    obtain ⟨result, rest, yields⟩ := Frame.composes_determined.read bytes
    obtain ⟨left, ran, holds⟩ := yields reader.source stands.source
    rcases result with error | (_ | unit)
    · -- What cannot be cut out of the output fails, so it would have been the end.
      have failed : reader.nextBatch = some (.error error, { reader with source := left }) := by
        rw [nextBatch_eq stands.held, fetch_eq, ran]
      exact absurd failed reads.not_failed
    · exact ⟨[], Frame.read_none stands.source ran⟩
    · -- What was cut out is a piece, and behind it the output is read to its end as well.
      obtain ⟨piece, behind, rfl, same, others⟩ := Frame.read_ok stands.source ran
      obtain ⟨brought, later, next, taken, split, begins, onward⟩ := exhausts_of_piece stands reads
      have present := piece.written_length_pos
      have shorter : behind.length < size := by
        rw [← sized, List.length_append]
        omega
      obtain ⟨pieces, rfl⟩ := ih behind.length shorter begins onward rfl
      exact ⟨piece :: pieces, rfl⟩

/-- How reading ends before a cut in an output of pieces. -/
inductive EndsAt : List Piece → Bytes → Except Error Unit → Prop where
  /-- The cut is before the first piece, or behind the last. -/
  | start (pieces : List Piece) : EndsAt pieces [] (.ok ())
  /-- The cut is inside the first piece. -/
  | inside {piece : Piece} {pieces : List Piece} {part : Bytes} {message : String}
    (present : part ≠ []) (front : part <+: piece.written) (short : part ≠ piece.written) :
    EndsAt (piece :: pieces) part (.error (.ofRaw message (piece.reported part)))
  /-- The cut is behind the first piece. -/
  | behind {piece : Piece} {pieces : List Piece} {bytes : Bytes} {last : Except Error Unit}
    (ends : EndsAt pieces bytes last) : EndsAt (piece :: pieces) (piece.written ++ bytes) last

namespace EndsAt

variable {pieces : List Piece} {bytes : Bytes} {last : Except Error Unit}

/-- Reading ends well exactly if the cut is between two pieces, or before or behind them all. -/
theorem ok_iff (ends : EndsAt pieces bytes last) :
    last = .ok () ↔ ∃ before, before <+: pieces ∧ bytes = before.flatMap Piece.written := by
  -- The induction is on the pieces before the cut; a part of a piece is shorter than any piece.
  induction ends with
  | start pieces => exact ⟨fun _ => ⟨[], List.nil_prefix, rfl⟩, fun _ => rfl⟩
  | @inside piece pieces part message present front short =>
    refine ⟨(nomatch ·), fun ⟨before, begins, whole⟩ => ?_⟩
    cases before with
    | nil => exact absurd whole present
    | cons first others =>
      -- The part would hold the whole piece.
      obtain ⟨rfl, others⟩ := List.cons_prefix_cons.mp begins
      have less := Frame.length_lt_of_part front short
      rw [whole, List.flatMap_cons, List.length_append] at less
      omega
  | @behind piece pieces bytes last ends ih =>
    rw [ih]
    constructor
    · rintro ⟨before, begins, rfl⟩
      exact ⟨piece :: before, List.cons_prefix_cons.mpr ⟨rfl, begins⟩, rfl⟩
    · rintro ⟨before, begins, whole⟩
      cases before with
      | nil =>
        -- Behind a piece the cut is not before the first one.
        have present := piece.written_length_pos
        rw [List.flatMap_nil, List.append_eq_nil_iff] at whole
        rw [whole.1] at present
        cases present
      | cons first others =>
        obtain ⟨rfl, onward⟩ := List.cons_prefix_cons.mp begins
        exact ⟨others, onward, List.append_cancel_left whole⟩

/-- Reading fails only inside a piece, and reports what there is of it. -/
theorem of_error (ends : EndsAt pieces bytes last) {error : Error} (failed : last = .error error) :
    ∃ before piece part, before ++ [piece] <+: pieces ∧
      bytes = before.flatMap Piece.written ++ part ∧
      part ≠ [] ∧ part <+: piece.written ∧ part ≠ piece.written ∧
      error.kind = .protocol ∧ error.raw = some (piece.reported part) := by
  -- The induction is on the pieces before the cut, which only move it on.
  induction ends with
  | start pieces => cases failed
  | @inside piece pieces part message present front short =>
    cases failed
    exact ⟨[], piece, part, List.cons_prefix_cons.mpr ⟨rfl, List.nil_prefix⟩, rfl, present, front,
      short, rfl, rfl⟩
  | @behind first pieces bytes last ends ih =>
    obtain ⟨before, piece, part, begins, rfl, others⟩ := ih failed
    -- The piece in front is one more before the cut.
    refine ⟨first :: before, piece, part, List.cons_prefix_cons.mpr ⟨rfl, begins⟩, ?_, others⟩
    rw [List.flatMap_cons, List.append_assoc]

end EndsAt

section

variable [Platform]

/-- An output that is cut short brings the first of its batches, and ends as the cut has it. -/
theorem exhausts_cut {pieces : List Piece} {one other : Batches} {assembly : Assembly}
    (stands : one.Stands assembly (pieces.flatMap Piece.written)) {batches : List NamedBatch}
    {after : Batches} (reads : Exhausts nextBatch one batches (.ok ()) after) {part : Bytes}
    (front : part <+: pieces.flatMap Piece.written) (cut : other.Stands assembly part) :
    ∃ brought last rest, Exhausts nextBatch other brought last rest ∧ brought <+: batches ∧
      EndsAt pieces part last := by
  -- The induction is on the pieces; those before the cut are taken in alike by both readers.
  induction pieces generalizing one other assembly batches part with
  | nil =>
    obtain rfl := List.prefix_nil.mp front
    obtain ⟨rest, ran⟩ := nextBatch_nil cut
    exact ⟨[], _, rest, .ended ran, List.nil_prefix, .start []⟩
  | cons piece pieces ih =>
    rw [List.flatMap_cons] at stands front
    rcases Frame.part_of_append front with ⟨inside, short⟩ | ⟨behind, inside, rfl⟩
    · -- Of the piece a part is there, which may be nothing at all.
      by_cases empty : part = []
      · subst empty
        obtain ⟨rest, ran⟩ := nextBatch_nil cut
        exact ⟨[], _, rest, .ended ran, List.nil_prefix, .start _⟩
      · obtain ⟨message, rest, ran⟩ := nextBatch_part cut empty inside short
        exact ⟨[], _, rest, .failed ran, List.nil_prefix, .inside empty inside short⟩
    · -- The piece is there as a whole, so what comes of it is the same.
      obtain ⟨brought, others, next, taken, rfl, begins, onward⟩ := exhausts_of_piece stands reads
      obtain ⟨following, starts, passed⟩ := exhausts_behind cut taken
      obtain ⟨later, last, rest, reads, brings, ends⟩ := ih begins onward inside starts
      exact ⟨_, last, rest, passed later last rest reads,
        (List.prefix_append_right_inj _).mpr brings, .behind ends⟩

/-- An output that is read to its end is made of pieces, and cut anywhere it brings the first of its
batches. It ends well exactly if the cut is between two pieces; otherwise it fails, and reports what
there is of the piece that the cut is in. -/
theorem nextBatch_cut {source : Source} {bytes : Bytes} (holds : source.Holds bytes)
    {batches : List NamedBatch} {after : Batches}
    (reads : Exhausts nextBatch { source } batches (.ok ()) after) :
    (∃ pieces : List Piece, bytes = pieces.flatMap Piece.written) ∧
    ∀ pieces : List Piece, bytes = pieces.flatMap Piece.written →
      ∀ (count : Nat) (cut : Source), cut.Holds (bytes.take count) →
        ∃ brought last rest, Exhausts nextBatch { source := cut } brought last rest ∧
          brought <+: batches ∧
          (last = .ok () ↔
            ∃ before, before <+: pieces ∧ bytes.take count = before.flatMap Piece.written) ∧
          ∀ error, last = .error error →
            ∃ before piece part, before ++ [piece] <+: pieces ∧
              bytes.take count = before.flatMap Piece.written ++ part ∧
              part ≠ [] ∧ part <+: piece.written ∧ part ≠ piece.written ∧
              error.kind = .protocol ∧ error.raw = some (piece.reported part) := by
  refine ⟨exists_pieces (stands_fresh holds) reads, fun pieces split count cut kept => ?_⟩
  -- Both readers start before the first piece with nothing taken in.
  subst split
  obtain ⟨brought, last, rest, reads, front, ends⟩ :=
    exhausts_cut (stands_fresh holds) reads (List.take_prefix _ _) (stands_fresh kept)
  exact ⟨brought, last, rest, reads, front, ends.ok_iff, fun error failed => ends.of_error failed⟩

/-- A message with a schema, as older writers put it. -/
def unmarkedOpening : Packet :=
  { Stream.columnlessOpening with marked := false }

/-- An output of nothing but the message. -/
def unmarkedSource : Source :=
  { events := [.data unmarkedOpening.written] }

/-- Such an output is read to its end, and brings no batch. -/
theorem unmarkedSource_read :
    ∃ after, Exhausts nextBatch { source := unmarkedSource } [] (.ok ()) after := by
  have holds : unmarkedSource.Holds ((Piece.message unmarkedOpening).written ++ []) := by
    rw [Piece.written_message, List.append_nil]
    exact Source.holds_data _
  -- The message waits for a body that it has not, so nothing comes of it.
  have fed : Assembly.feed {} unmarkedOpening.frame = Assembly.taken {} unmarkedOpening :=
    Assembly.feed_frame Assembly.atRest_fresh unmarkedOpening
  have waits := congrArg Prod.fst (Assembly.takeIn_empty fed rfl)
  obtain ⟨next, begins, passed⟩ := exhausts_behind (stands_fresh holds) waits
  obtain ⟨after, ended⟩ := nextBatch_nil begins
  exact ⟨after, passed [] _ _ (.ended ended)⟩

end

open scoped Platform in
/-- Behind ten of its bytes the message is reported with a marker, as its length is complete. -/
theorem nextBatch_cut_unmarked :
    unmarkedSource.Holds unmarkedOpening.written ∧
    (∃ after, Exhausts nextBatch { source := unmarkedSource } [] (.ok ()) after) ∧
    ∃ error rest, Exhausts nextBatch
        { source := { events := [.data (unmarkedOpening.written.take 10)] } } [] (.error error) rest ∧
      error.raw = some (Frame.marker ++ unmarkedOpening.written.take 10) := by
  have holds (bytes : Bytes) : Source.Holds { events := [.data bytes] } bytes :=
    ⟨by simp [OutputEvent.IsQuiet], by simp [OutputEvent.bytes]⟩
  obtain ⟨after, reads⟩ := unmarkedSource_read
  refine ⟨holds _, ⟨after, reads⟩, ?_⟩
  have split : unmarkedOpening.written = [Piece.message unmarkedOpening].flatMap Piece.written := by
    rw [List.flatMap_singleton, Piece.written_message]
  -- The output is one piece, cut behind ten bytes.
  obtain ⟨brought, last, rest, cut, front, ends, fails⟩ :=
    (nextBatch_cut (holds _) reads).2 _ split 10 _ (holds _)
  obtain rfl := List.prefix_nil.mp front
  -- The message is longer than that, so ten bytes are a part of it.
  have length : (unmarkedOpening.written.take 10).length = 10 := by rfl
  cases last with
  | ok nothing =>
    -- Ten bytes are neither nothing nor the whole message.
    obtain ⟨before, begins, whole⟩ := ends.mp rfl
    rw [whole] at length
    cases before with
    | nil => cases length
    | cons first others =>
      obtain ⟨rfl, none⟩ := List.cons_prefix_cons.mp begins
      rw [List.prefix_nil.mp none, List.flatMap_singleton, Piece.written_message] at length
      cases length
  | error error =>
    obtain ⟨before, piece, part, begins, parts, present, inside, short, kind, raw⟩ := fails error rfl
    refine ⟨error, rest, cut, ?_⟩
    cases before with
    | nil =>
      -- The only piece is the one that the cut is in.
      obtain ⟨rfl, none⟩ := List.cons_prefix_cons.mp begins
      rw [List.flatMap_nil, List.nil_append] at parts
      rw [raw, parts]
      rw [parts] at length
      rw [Piece.reported, if_pos ⟨rfl, by omega⟩]
    | cons first others =>
      have fewer := begins.length_le
      simp only [List.length_append, List.length_cons, List.length_nil] at fewer
      omega

end Batches

end EngineClient.Arrow
