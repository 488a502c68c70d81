import EngineClient.Proofs.Arrow.Place

/-! Which malformed messages of an output are reported, and which are passed over or blamed on the
message behind them. -/

namespace EngineClient.Arrow

/-- A message that is malformed in its place behind some pieces: the stream that it stands in turns it
down. -/
def Malformed (before : List Piece) (packet : Packet) : Prop :=
  ∃ place, Assembly.placeOf before = some place ∧ place.Rejects packet

namespace Assembly

section

variable {place actual : Assembly} {packet other : Packet} {waiting : Option Packet}

/-- The place of a message is at rest. -/
theorem Lags.atRest (lags : Lags waiting place actual) : place.AtRest := by
  cases lags with
  | even rest => exact rest
  | waits rest empty accepted => exact (accept_accepts accepted).atRest rest.gathered

variable [Platform]

/-- A message that is settled by a frame and turned down is reported with that frame. -/
theorem Rejects.reports (rejects : place.Rejects packet)
    (fed : actual.feed other.frame = place.settled packet.message packet.body) :
    ∃ error, (actual.takeIn (.message other)).1 = .error error := by
  simp only [takeIn, fed, settled]
  -- The message is not taken in, or its batch has no name.
  cases rejects with
  | unaccepted out => rw [out]; exact ⟨_, rfl⟩
  | unnamed read absent =>
    rw [read]
    simp only [absent]
    exact ⟨_, rfl⟩

/-- A message without a body that is turned down is reported with the frame of the next one. -/
theorem Rejects.reports_behind (rejects : place.Rejects packet) (rest : place.AtRest)
    (empty : packet.body = []) :
    ∃ error, ((place.awaiting packet.message).takeIn (.message other)).1 = .error error := by
  refine rejects.reports ?_
  rw [feed_awaiting rest empty, settled, ← empty]
  -- It is turned down or brings a batch, so nothing of the frame is looked at.
  cases rejects with
  | unaccepted out => rw [out]
  | unnamed read absent => rw [read]

/-- Unless a batch waits before it, a message with a body that is turned down is reported. -/
theorem Lags.reports (lags : Lags waiting place actual)
    (free : waiting.any Packet.isBatch = false) (rejects : place.Rejects packet)
    (present : packet.body ≠ []) : ∃ error, (actual.takeIn (.message packet)).1 = .error error := by
  refine rejects.reports ?_
  rw [lags.feed_eq free, taken, if_neg present]

/-- Unless a batch waits before it, a message without a body only waits. -/
theorem Lags.takeIn_empty (lags : Lags waiting place actual)
    (free : waiting.any Packet.isBatch = false) (empty : packet.body = []) :
    actual.takeIn (.message packet) = (.ok none, place.awaiting packet.message) :=
  Assembly.takeIn_empty (lags.feed_eq free) empty

/-- Where a batch waits and a message is reported all the same, the batch has no name. -/
theorem Lags.unnamed_of_error (lags : Lags waiting place actual)
    (waits : waiting.any Packet.isBatch = true) {error : Error}
    (failed : (actual.takeIn (.message packet)).1 = .error error) :
    ∃ schema, place.schema = some schema ∧ schema.name? = none := by
  -- What is fed completes the batch that waits, so a failure can only be for want of a name.
  obtain ⟨batch, opened, rest, fed⟩ := lags.feed_batch waits packet
  refine ⟨batch.schema, opened, ?_⟩
  simp only [takeIn, fed] at failed
  split at failed
  · cases failed
  · rename_i absent
    exact Option.map_eq_none_iff.mp absent

end

end Assembly

namespace Batches

variable [Platform]

/-- A message behind some pieces is reported: after some answers comes a failure that breaks the format,
with the frame of that very message, and what follows the message is left, whatever that is. -/
def Reported (before : List Piece) (packet : Packet) : Prop :=
  ∃ answers error, error.kind = .protocol ∧ error.raw = some packet.frame ∧
    ∀ (rest : Bytes) (source : Source),
      source.Holds (before.flatMap Piece.written ++ (packet.written ++ rest)) →
      ∃ last after : Batches, Repeats nextBatch { source } answers last ∧
        last.nextBatch = some (.error error, after) ∧ after.source.Holds rest

/-- A message that nothing follows in its stream is passed over: the same is answered as without it. -/
def PassedOver (before : List Piece) (packet : Packet) : Prop :=
  ∀ rest : Bytes, (rest = [] ∨ ∃ marked tail, rest = (Piece.stop marked).written ++ tail) →
    ∀ one other : Source,
      one.Holds (before.flatMap Piece.written ++ (packet.written ++ rest)) →
      other.Holds (before.flatMap Piece.written ++ rest) → ∀ count,
        answersTo nextBatch count { source := one } = answersTo nextBatch count { source := other }

/-- All malformed messages among some pieces are reported. -/
def AllReported (pieces : List Piece) : Prop :=
  ∀ before packet, before ++ [.message packet] <+: pieces → Malformed before packet →
    Reported before packet

section

variable {reader last after : Batches} {assembly : Assembly} {packet : Packet} {error : Error}
  {answers : List (Except Error (Option NamedBatch))}

/-- At the end of the output nothing fails any more. -/
theorem not_error_of_nil (stands : reader.Stands assembly [])
    (continues : Continues nextBatch reader answers last) :
    last.nextBatch ≠ some (.error error, after) := by
  intro failed
  -- The failure would be among the answers, which are all the same.
  have ends := answersTo_end stands (answers.length + 1)
  rw [continues.answersTo_eq, answersTo_succ failed] at ends
  have same : answers ++ [.error error] = List.replicate (answers.length + 1) (.ok none) :=
    Option.some.inj ends
  have member : .error error ∈ answers ++ [.error error] :=
    List.mem_append_right _ List.mem_cons_self
  rw [same] at member
  cases List.eq_of_mem_replicate member

/-- A failure that leaves nothing is one of the last message. -/
theorem error_of_continues {pieces : List Piece}
    (stands : reader.Stands assembly (pieces.flatMap Piece.written ++ packet.written))
    (continues : Continues nextBatch reader answers last)
    (failed : last.nextBatch = some (.error error, after)) (ends : after.source.Holds []) :
    ∃ error, ((assembly.through pieces).takeIn (.message packet)).1 = .error error := by
  -- The induction is on the pieces before; what one of them answers leaves the message unread.
  induction pieces generalizing reader assembly answers with
  | nil =>
    -- Only the message is left, and it fails or nothing does.
    have alone : reader.Stands assembly ((Piece.message packet).written ++ []) := by
      rw [Piece.written_message, List.append_nil]
      exact stands
    obtain ⟨next, begins, ran⟩ := nextBatch_piece alone
    rcases brought : (assembly.takeIn (.message packet)).1 with found | (_ | named)
    · exact ⟨found, brought⟩
    · rw [brought] at ran
      exact absurd failed (not_error_of_nil begins (continues.of_same ran.symm))
    · rw [brought] at ran
      rcases continues.uncons ran with ⟨_, same⟩ | ⟨others, _, onward⟩
      · cases failed.symm.trans same
      · exact absurd failed (not_error_of_nil begins onward)
  | cons piece pieces ih =>
    rw [List.flatMap_cons, List.append_assoc] at stands
    obtain ⟨next, begins, ran⟩ := nextBatch_piece stands
    rcases brought : (assembly.takeIn piece).1 with found | (_ | named)
    · rw [brought] at ran
      rcases continues.uncons ran with ⟨_, same⟩ | ⟨others, _, onward⟩
      · -- The piece fails and leaves the message, which is not nothing.
        cases failed.symm.trans same
        have nothing := begins.source.whole.symm.trans ends.whole
        have some := (Piece.message packet).written_length_pos
        rw [Piece.written_message] at some
        rw [List.append_eq_nil_iff] at nothing
        rw [nothing.2] at some
        cases some
      · exact ih begins onward
    · rw [brought] at ran
      exact ih begins (continues.of_same ran.symm)
    · rw [brought] at ran
      rcases continues.uncons ran with ⟨_, same⟩ | ⟨others, _, onward⟩
      · cases failed.symm.trans same
      · exact ih begins onward

end

/-- A message is reported exactly if a failure is what is made of it behind the pieces before. -/
theorem reported_iff {before : List Piece} {packet : Packet} :
    Reported before packet ↔
      ∃ error, ((Assembly.through {} before).takeIn (.message packet)).1 = .error error := by
  constructor
  · rintro ⟨answers, error, -, -, reports⟩
    -- Where nothing follows the message, the failure leaves nothing.
    have holds := Source.holds_data (before.flatMap Piece.written ++ packet.written)
    obtain ⟨last, after, repeats, failed, ends⟩ :=
      reports [] _ (by rw [List.append_nil]; exact holds)
    exact error_of_continues (stands_fresh holds) ⟨last, repeats, rfl⟩ failed ends
  · -- The pieces before the message bring their answers, and then it fails, whatever follows.
    rintro ⟨error, failed⟩
    obtain ⟨kind, raw⟩ := Assembly.takeIn_error failed
    refine ⟨Assembly.answers {} before, error, kind, raw, fun rest source holds => ?_⟩
    obtain ⟨next, begins, middle, repeats, same⟩ := continues_pieces before (stands_fresh holds)
    rw [← Piece.written_message] at begins
    obtain ⟨after, left, ran⟩ := nextBatch_piece begins
    rw [failed] at ran
    exact ⟨middle, after, repeats, same.trans ran, left.source⟩

/-- A message of which nothing is made is passed over where nothing follows it in its stream. -/
theorem passedOver_of_silent {before : List Piece} {packet : Packet}
    (silent : ((Assembly.through {} before).takeIn (.message packet)).1 = .ok none) :
    PassedOver before packet := by
  intro rest ending one other oneHolds otherHolds
  -- Nothing is answered of the message, so the answers before it are the same.
  have heard : Assembly.answers {} (before ++ [.message packet]) = Assembly.answers {} before := by
    rw [Assembly.answers_append, Assembly.answers_cons_of_silent silent]
    exact List.append_nil _
  rcases ending with rfl | ⟨marked, tail, rfl⟩
  · -- Both come to the end of the output, where it makes no difference what was taken in.
    have first : one.Holds ((before ++ [Piece.message packet]).flatMap Piece.written ++ []) := by
      simpa only [List.flatMap_append, List.flatMap_singleton, Piece.written_message,
        List.append_assoc] using oneHolds
    obtain ⟨left, leftEnds, leftContinues⟩ := continues_pieces _ (stands_fresh first)
    obtain ⟨right, rightEnds, rightContinues⟩ := continues_pieces _ (stands_fresh otherHolds)
    rw [heard] at leftContinues
    exact leftContinues.answersTo_congr rightContinues fun count => by
      rw [answersTo_end leftEnds, answersTo_end rightEnds]
  · -- Behind the end of the stream both go on as fresh readers of the tail.
    have first : one.Holds
        ((before ++ [Piece.message packet] ++ [Piece.stop marked]).flatMap Piece.written ++ tail) := by
      simpa only [List.flatMap_append, List.flatMap_singleton, Piece.written_message,
        List.append_assoc] using oneHolds
    have second : other.Holds ((before ++ [Piece.stop marked]).flatMap Piece.written ++ tail) := by
      simpa only [List.flatMap_append, List.flatMap_singleton, List.append_assoc] using otherHolds
    obtain ⟨left, leftBegins, leftContinues⟩ := continues_pieces _ (stands_fresh first)
    obtain ⟨right, rightBegins, rightContinues⟩ := continues_pieces _ (stands_fresh second)
    -- The end of the stream answers nothing and leaves a fresh assembly.
    have ended (assembly : Assembly) : assembly.answers [.stop marked] = [] := rfl
    rw [Assembly.through_stop] at leftBegins rightBegins
    rw [Assembly.answers_append, heard, ended] at leftContinues
    rw [Assembly.answers_append, ended] at rightContinues
    have alike : Alike left right :=
      ⟨⟨tail, leftBegins.source, rightBegins.source⟩,
        leftBegins.assembly.trans rightBegins.assembly.symm, leftBegins.held.trans rightBegins.held.symm⟩
    refine leftContinues.answersTo_congr rightContinues fun count => ?_
    obtain ⟨answers, leftAnswers, rightAnswers⟩ :=
      answersTo_alike (fun _ _ => nextBatch_alike) alike count
    rw [leftAnswers, rightAnswers]

end Batches

/-- No dictionary is lost among the first of some pieces if none is lost among them all. -/
theorem KeepsDictionaries.of_prefix {pieces before : List Piece} (kept : KeepsDictionaries pieces)
    (front : before <+: pieces) : KeepsDictionaries before :=
  fun first other inside => kept first other (inside.trans front)

/-- No batch waits exactly if none of the messages that wait is one. -/
theorem any_waiting_iff {pieces : List Piece} :
    (Piece.waiting pieces).any Packet.isBatch = true ↔ BatchWaits pieces := by
  rw [Option.any_eq_true]
  rfl

/-- A batch without a name that waits is malformed in its own place. -/
theorem malformed_of_waiting {before : List Piece} {place : Assembly}
    (stands : Assembly.placeOf before = some place) (waits : BatchWaits before)
    (unnamed : ∃ schema, place.schema = some schema ∧ schema.name? = none) :
    ∃ first packet, before = first ++ [.message packet] ∧ packet.body = [] ∧ Malformed first packet := by
  obtain ⟨packet, waits, brings⟩ := waits
  obtain ⟨empty, first, rfl⟩ := Piece.waiting_eq_some waits
  obtain ⟨held, brought, found, accepted⟩ := Assembly.place_behind_message stands
  -- The batch has the schema that the stream has behind it.
  have some : brought.isSome = true := (Assembly.accept_accepts accepted).isSome_eq.trans brings
  obtain ⟨batch, rfl⟩ := Option.isSome_iff_exists.mp some
  obtain ⟨schema, opened, absent⟩ := unnamed
  have same := (Assembly.schema_behind_batch accepted).symm.trans opened
  have bare : batch.schema.name? = none := (Option.some.inj same).symm ▸ absent
  exact ⟨first, packet, rfl, empty, held, found, .unnamed accepted (by rw [NamedBatch.ofBatch?, bare]; rfl)⟩

namespace Batches

section

variable [Platform]

variable {pieces before : List Piece} {packet : Packet}

/-- A malformed message without a body is passed over, or blamed on the message behind it, unless a
batch waits before it. -/
theorem unreported_of_empty (kept : KeepsDictionaries before) (malformed : Malformed before packet)
    (free : ¬BatchWaits before) (empty : packet.body = []) :
    ¬Reported before packet ∧ PassedOver before packet ∧
      ∀ next, Reported (before ++ [.message packet]) next := by
  obtain ⟨place, stands, rejects⟩ := malformed
  have lags := Assembly.lags_through kept stands
  have waits := lags.takeIn_empty (Bool.eq_false_iff.mpr (any_waiting_iff.not.mpr free)) empty
  refine ⟨fun reported => ?_, passedOver_of_silent (by rw [waits]), fun next => reported_iff.mpr ?_⟩
  · -- A message that waits is not answered at all.
    obtain ⟨error, failed⟩ := reported_iff.mp reported
    rw [waits] at failed
    cases failed
  · -- The next message is fed while this one waits, and finds it turned down.
    rw [Assembly.through_append]
    have behind : (Assembly.through {} before).through [.message packet]
        = place.awaiting packet.message := congrArg Prod.snd waits
    rw [behind]
    exact rejects.reports_behind lags.atRest empty

/-- A malformed message with a body is reported, unless a batch waits before it. -/
theorem reported_of_body (kept : KeepsDictionaries before) (malformed : Malformed before packet)
    (free : ¬BatchWaits before) (present : packet.body ≠ []) : Reported before packet := by
  obtain ⟨place, stands, rejects⟩ := malformed
  have lags := Assembly.lags_through kept stands
  exact reported_iff.mpr
    (lags.reports (Bool.eq_false_iff.mpr (any_waiting_iff.not.mpr free)) rejects present)

/-- Where all malformed messages are reported, each has a body, and no batch waits before it. -/
theorem body_of_allReported (kept : KeepsDictionaries pieces) (reported : AllReported pieces)
    (front : before ++ [.message packet] <+: pieces) (malformed : Malformed before packet) :
    packet.body ≠ [] ∧ ¬BatchWaits before := by
  -- The induction is on the pieces before: a batch that waits may be malformed itself.
  induction sized : before.length using Nat.strongRecOn generalizing before packet with
  | ind size ih =>
    have begins : before <+: pieces := (List.prefix_append _ _).trans front
    have free : ¬BatchWaits before := by
      intro waits
      obtain ⟨place, stands, rejects⟩ := malformed
      have lags := Assembly.lags_through (kept.of_prefix begins) stands
      obtain ⟨error, failed⟩ := reported_iff.mp (reported before packet front ⟨place, stands, rejects⟩)
      -- What is reported is the batch that waited, so it has no name and should have been before.
      obtain ⟨first, waiting, rfl, empty, faulty⟩ :=
        malformed_of_waiting stands waits (lags.unnamed_of_error (any_waiting_iff.mpr waits) failed)
      have shorter : first.length < size := by
        rw [← sized, List.length_append]
        exact Nat.lt_succ_self _
      exact (ih first.length shorter begins faulty rfl).1 empty
    refine ⟨fun empty => ?_, free⟩
    exact (unreported_of_empty (kept.of_prefix begins) malformed free empty).1
      (reported before packet front malformed)

end

/-- A schema and a second one behind it in the same stream. -/
def twoSchemas : List Piece :=
  [.message Stream.columnlessOpening, .message Stream.columnlessOpening]

/-- The second schema is malformed in its place, and passed over where nothing follows it. -/
theorem unreported_secondSchema [Platform] :
    Malformed [.message Stream.columnlessOpening] Stream.columnlessOpening ∧
      ¬Reported [.message Stream.columnlessOpening] Stream.columnlessOpening ∧
      PassedOver [.message Stream.columnlessOpening] Stream.columnlessOpening := by
  have malformed : Malformed [.message Stream.columnlessOpening] Stream.columnlessOpening :=
    ⟨{ schema := some Stream.columnlessSchema }, rfl, .unaccepted rfl⟩
  -- Schemas have no body, but they are no dictionaries and no batches either.
  have kept : KeepsDictionaries [.message Stream.columnlessOpening] := by
    intro before packet front waits
    have member : Piece.message packet ∈ [Piece.message Stream.columnlessOpening] :=
      front.subset (List.mem_append_right _ List.mem_cons_self)
    cases List.mem_singleton.mp member
    rfl
  -- Nothing but a schema waits.
  have free : ¬BatchWaits [.message Stream.columnlessOpening] := by
    rintro ⟨packet, waits, batch⟩
    cases waits
    cases batch
  obtain ⟨unreported, passed, -⟩ := unreported_of_empty kept malformed free rfl
  exact ⟨malformed, unreported, passed⟩

end Batches

end EngineClient.Arrow
