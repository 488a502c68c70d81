import EngineClient.Proofs.Arrow.Cuts

/-! What is answered of an output of pieces, one after another, and that nothing of a stream outlasts
its end. -/

namespace EngineClient.Arrow

namespace Assembly

variable [Platform]

/-- The stream behind some pieces. -/
def through (assembly : Assembly) (pieces : List Piece) : Assembly :=
  pieces.foldl (fun assembly piece => (assembly.takeIn piece).2) assembly

/-- What is answered of some pieces: a batch or a failure of each that brings one. -/
def answers (assembly : Assembly) : List Piece → List (Except Error (Option NamedBatch))
  | [] => []
  | piece :: rest =>
    let behind := (assembly.takeIn piece).2.answers rest
    match (assembly.takeIn piece).1 with
    | .ok none => behind
    | answer => answer :: behind

/-- A piece that brings nothing leaves all answers to those behind it. -/
theorem answers_cons_of_silent {assembly : Assembly} {piece : Piece}
    (silent : (assembly.takeIn piece).1 = .ok none) (rest : List Piece) :
    assembly.answers (piece :: rest) = (assembly.takeIn piece).2.answers rest := by
  rw [answers, silent]

/-- What a piece brings is answered before what those behind it bring. -/
theorem answers_cons_of_heard {assembly : Assembly} {piece : Piece}
    (heard : (assembly.takeIn piece).1 ≠ .ok none) (rest : List Piece) :
    assembly.answers (piece :: rest)
      = (assembly.takeIn piece).1 :: (assembly.takeIn piece).2.answers rest := by
  rw [answers]
  -- A piece that brought nothing is ruled out, so the answer is its own.
  split
  · rename_i silent
    exact absurd silent heard
  · rfl

/-- What is answered of some pieces comes before what is answered of those behind them. -/
theorem answers_append (assembly : Assembly) (pieces others : List Piece) :
    assembly.answers (pieces ++ others)
      = assembly.answers pieces ++ (assembly.through pieces).answers others := by
  -- The induction is on the pieces in front, which are answered or passed in silence.
  induction pieces generalizing assembly with
  | nil => rfl
  | cons piece pieces ih =>
    rw [List.cons_append]
    by_cases silent : (assembly.takeIn piece).1 = .ok none
    · rw [answers_cons_of_silent silent, answers_cons_of_silent silent, ih]
      rfl
    · rw [answers_cons_of_heard silent, answers_cons_of_heard silent, ih]
      rfl

/-- Behind some pieces and others the stream is what these make of it behind the first. -/
theorem through_append (assembly : Assembly) (pieces others : List Piece) :
    assembly.through (pieces ++ others) = (assembly.through pieces).through others :=
  List.foldl_append

/-- Behind the end of a stream the next one has not begun. -/
theorem through_stop (assembly : Assembly) (pieces : List Piece) (marked : Bool) :
    assembly.through (pieces ++ [.stop marked]) = {} := by
  rw [through_append]
  rfl

end Assembly

namespace Batches

section

variable [Platform]

/-- A reader answers what is to be answered of the pieces before it, and then goes on behind them. -/
theorem continues_pieces (pieces : List Piece) {reader : Batches} {assembly : Assembly} {tail : Bytes}
    (stands : reader.Stands assembly (pieces.flatMap Piece.written ++ tail)) :
    ∃ next : Batches, next.Stands (assembly.through pieces) tail ∧
      Continues nextBatch reader (assembly.answers pieces) next := by
  -- The induction is on the pieces; each is answered at once, or passed.
  induction pieces generalizing reader assembly with
  | nil => exact ⟨reader, stands, reader, .done reader, rfl⟩
  | cons piece pieces ih =>
    rw [List.flatMap_cons, List.append_assoc] at stands
    obtain ⟨middle, begins, ran⟩ := nextBatch_piece stands
    obtain ⟨next, reached, continues⟩ := ih begins
    refine ⟨next, reached, ?_⟩
    by_cases silent : (assembly.takeIn piece).1 = .ok none
    · rw [silent] at ran
      rw [Assembly.answers_cons_of_silent silent]
      exact continues.of_same ran
    · rw [Assembly.answers_cons_of_heard silent]
      refine continues.cons ?_
      -- A piece that is heard fails or brings a batch.
      rcases brought : (assembly.takeIn piece).1 with error | (_ | named)
      · rw [ran, brought]
      · exact absurd brought silent
      · rw [ran, brought]

/-- The batches of an output that is read to its end are all that is answered of its pieces. -/
theorem answers_of_exhausts (pieces : List Piece) {reader after : Batches} {assembly : Assembly}
    (stands : reader.Stands assembly (pieces.flatMap Piece.written)) {batches : List NamedBatch}
    (reads : Exhausts nextBatch reader batches (.ok ()) after) :
    assembly.answers pieces = answersOf batches := by
  -- The induction is on the pieces; none of them fails, so each brings a batch or nothing.
  induction pieces generalizing reader assembly batches with
  | nil =>
    obtain ⟨rest, ended⟩ := nextBatch_nil stands
    obtain ⟨rfl, -, -⟩ := reads.unique (.ended ended)
    rfl
  | cons piece pieces ih =>
    rw [List.flatMap_cons] at stands
    obtain ⟨brought, others, next, taken, rfl, begins, onward⟩ := exhausts_of_piece stands reads
    have behind := ih begins onward
    -- A piece without a batch adds no answer.
    cases brought with
    | none => rw [Assembly.answers_cons_of_silent taken, behind]; rfl
    | some named =>
      have heard : (assembly.takeIn piece).1 ≠ .ok none := by simp [taken]
      rw [Assembly.answers_cons_of_heard heard, taken, behind]
      rfl

/-- An output that ends with the end of a stream does not tell on what is read behind it: its batches
are answered, and then all that a fresh reader answers of what follows. -/
theorem nextBatch_behind_stop {bytes : Bytes} {pieces : List Piece} {marked : Bool}
    (split : bytes = (pieces ++ [Piece.stop marked]).flatMap Piece.written) {source : Source}
    (holds : source.Holds bytes) {batches : List NamedBatch} {after : Batches}
    (reads : Exhausts nextBatch { source } batches (.ok ()) after) (tail : Bytes)
    {joined alone : Source} (joinedHolds : joined.Holds (bytes ++ tail)) (aloneHolds : alone.Holds tail)
    (count : Nat) :
    ∃ answers, answersTo nextBatch count { source := alone } = some answers ∧
      answersTo nextBatch (batches.length + count) { source := joined }
        = some (answersOf batches ++ answers) := by
  subst split
  -- What is answered of the pieces are the batches, whatever stands behind.
  have brought := answers_of_exhausts _ (stands_fresh holds) reads
  obtain ⟨next, begins, continues⟩ := continues_pieces _ (stands_fresh joinedHolds)
  rw [brought] at continues
  -- The end of the stream leaves a stream that has not begun, as a fresh reader has it.
  rw [Assembly.through_stop] at begins
  have alike : Alike { source := alone } next :=
    ⟨⟨tail, aloneHolds, begins.source⟩, begins.assembly.symm, begins.held.symm⟩
  obtain ⟨answers, first, second⟩ :=
    answersTo_alike (fun _ _ => nextBatch_alike) alike count
  refine ⟨answers, first, ?_⟩
  have total := continues.answersTo_eq count
  rw [answersOf, List.length_map] at total
  rw [total, second]
  rfl

/-- The metadata of a message with a batch of two rows without columns. -/
def bodiedMetadata : Bytes :=
  [16, 0, 0, 0, 12, 0, 20, 0, 16, 0, 18, 0, 4, 0, 8, 0, 12, 0, 0, 0, 28, 0, 0, 0, 8, 0, 0, 0, 0, 0,
    0, 0, 4, 0, 3, 0, 10, 0, 20, 0, 8, 0, 4, 0, 16, 0, 0, 0, 12, 0, 0, 0, 16, 0, 0, 0, 2, 0, 0, 0, 0,
    0, 0, 0, 12, 0, 0, 0, 0, 0, 0, 0, 0, 0, 0, 0, 0, 0, 0, 0]

/-- The message, with a body of eight bytes. -/
def bodiedPacket : Packet where
  marked := true
  metadata := bodiedMetadata
  message := ⟨4, .batch (some ⟨2, [], [], none, []⟩), 8⟩
  body := [0, 0, 0, 0, 0, 0, 0, 0]
  parsed := by rfl
  metadataFits := by decide
  announced := rfl
  bodyFits := by decide

/-- A stream with the message behind a schema, as older writers put it. -/
def bodiedPieces : List Piece :=
  [.message unmarkedOpening, .message bodiedPacket, .stop false]

/-- The stream is read to its end, and brings the batch. -/
theorem bodiedPieces_read {source : Source} (holds : source.Holds (bodiedPieces.flatMap Piece.written)) :
    ∃ after, Exhausts nextBatch { source }
      [⟨"s.a", Stream.columnlessSchema, .bare 2⟩] (.ok ()) after := by
  -- The schema has no body, so it waits until the batch comes behind it.
  have first : Assembly.takeIn {} (.message unmarkedOpening)
      = (.ok none, Assembly.awaiting {} unmarkedOpening.message) :=
    Assembly.takeIn_empty (Assembly.feed_frame Assembly.atRest_fresh unmarkedOpening) rfl
  have second : (Assembly.takeIn (Assembly.awaiting {} unmarkedOpening.message)
      (.message bodiedPacket)).1 = .ok (some ⟨"s.a", Stream.columnlessSchema, .bare 2⟩) := by
    have waited : unmarkedOpening.body = [] := rfl
    simp only [Assembly.takeIn, Assembly.feed_awaiting Assembly.atRest_fresh waited bodiedPacket]
    rfl
  simp only [bodiedPieces, List.flatMap_cons] at holds
  -- Behind each of the three pieces the reading goes on, until the output is over.
  obtain ⟨opened, begins, firstBehind⟩ := exhausts_behind (stands_fresh holds) (by rw [first])
  rw [first] at begins
  obtain ⟨brought, ends, secondBehind⟩ := exhausts_behind begins second
  obtain ⟨last, nothing, lastBehind⟩ := exhausts_behind ends rfl
  obtain ⟨after, ended⟩ := nextBatch_nil nothing
  exact ⟨after, firstBehind _ _ _ (secondBehind _ _ _ (lastBehind _ _ _ (.ended ended)))⟩

/-- How far a fresh stream comes with the message: to its body. -/
def bodiedWaiting : Assembly :=
  { expected := .body bodiedPacket.message }

/-- Without a schema before it the message is reported, and then the output is over. -/
theorem nextBatch_bodied {source : Source} (holds : source.Holds bodiedPacket.written) :
    ∃ next : Batches, next.Stands (Assembly.takeIn {} (.message bodiedPacket)).2 [] ∧
      nextBatch { source }
        = some (.error (undecodable bodiedWaiting bodiedPacket.frame), next) := by
  -- The body is there, so the message is looked at once it is fed.
  have failed : (Assembly.takeIn {} (.message bodiedPacket)).1
      = .error (undecodable bodiedWaiting bodiedPacket.frame) := by
    simp only [Assembly.takeIn, Assembly.feed_frame Assembly.atRest_fresh bodiedPacket]
    rfl
  have whole : source.Holds ((Piece.message bodiedPacket).written ++ []) := by
    rw [Piece.written_message, List.append_nil]
    exact holds
  -- The piece is answered by its failure, and the reader stands behind it.
  obtain ⟨next, behind, ran⟩ := nextBatch_piece (stands_fresh whole)
  rw [failed] at ran
  exact ⟨next, behind, ran⟩

end

open scoped Platform in
/-- Behind the stream the same message is without a schema, as it is in an output of its own. -/
theorem nextBatch_behind_stop_schemaless :
    let bytes := bodiedPieces.flatMap Piece.written
    let joined : Source := { events := [.data (bytes ++ bodiedPacket.written)] }
    let alone : Source := { events := [.data bodiedPacket.written] }
    Source.Holds { events := [.data bytes] } bytes ∧ joined.Holds (bytes ++ bodiedPacket.written) ∧
    alone.Holds bodiedPacket.written ∧
    (∃ after, Exhausts nextBatch { source := { events := [.data bytes] } }
      [⟨"s.a", Stream.columnlessSchema, .bare 2⟩] (.ok ()) after) ∧
    answersTo nextBatch 1 { source := alone }
      = some [.error (undecodable bodiedWaiting bodiedPacket.frame)] ∧
    answersTo nextBatch 2 { source := joined }
      = some [.ok (some ⟨"s.a", Stream.columnlessSchema, .bare 2⟩),
        .error (undecodable bodiedWaiting bodiedPacket.frame)] := by
  intro bytes joined alone
  have split : bytes = ([Piece.message unmarkedOpening, .message bodiedPacket]
    ++ [Piece.stop false]).flatMap Piece.written := rfl
  obtain ⟨after, reads⟩ := bodiedPieces_read (Source.holds_data bytes)
  -- Behind the stop the output is read as the packet alone is.
  obtain ⟨answers, first, second⟩ := nextBatch_behind_stop split (Source.holds_data bytes) reads
    bodiedPacket.written (Source.holds_data _) (Source.holds_data _) 1
  -- Alone the packet is turned down, as it has no schema before it.
  have turnedDown : answersTo nextBatch 1 { source := alone }
      = some [.error (undecodable bodiedWaiting bodiedPacket.frame)] := by
    obtain ⟨next, _, ran⟩ := nextBatch_bodied (Source.holds_data bodiedPacket.written)
    rw [answersTo_succ ran]
    rfl
  cases turnedDown.symm.trans first
  exact ⟨Source.holds_data _, Source.holds_data _, Source.holds_data _, ⟨after, reads⟩, turnedDown,
    second⟩

end Batches

end EngineClient.Arrow
