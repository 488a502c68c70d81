import EngineClient.Proofs.Arrow.Sequence
import Mathlib.Data.List.Induction

/-! The place of a message in its stream, and how far what is taken in lags behind it when a message has
no body. -/

namespace EngineClient.Arrow

/-- Whether a packet brings a dictionary. -/
def Packet.isDictionary (packet : Packet) : Bool :=
  match packet.message.header with
  | .dictionary _ _ _ => true
  | _ => false

/-- The message without a body that waits behind a piece, given the one that waited before it. A batch
that waited takes the place of the piece. -/
def Piece.waits (waiting : Option Packet) : Piece → Option Packet
  | .stop _ => none
  | .message packet =>
    if waiting.any Packet.isBatch then none
    else if packet.body = [] then some packet
    else none

/-- The message without a body that waits behind some pieces. -/
def Piece.waiting (pieces : List Piece) : Option Packet :=
  pieces.foldl waits none

/-- A batch without a body waits behind some pieces, so that the message behind them is lost. -/
def BatchWaits (pieces : List Piece) : Prop :=
  ∃ packet, Piece.waiting pieces = some packet ∧ packet.isBatch = true

/-- No dictionary among some pieces is lost. -/
def KeepsDictionaries (pieces : List Piece) : Prop :=
  ∀ before packet, before ++ [.message packet] <+: pieces → BatchWaits before →
    packet.isDictionary = false

namespace Assembly

/-- The stream behind a piece, when each message of it is taken in as a whole; none where one of them
is out of place or broken. -/
def behind (place : Option Assembly) : Piece → Option Assembly
  | .stop _ => some {}
  | .message packet =>
    match place with
    | some assembly => (assembly.accept packet.message packet.body).map Prod.snd
    | none => none

/-- The stream that a message behind some pieces has its place in. -/
def placeOf (pieces : List Piece) : Option Assembly :=
  pieces.foldl behind (some {})

/-- A stream turns a message down. -/
inductive Rejects (assembly : Assembly) (packet : Packet) : Prop where
  /-- It is out of place or broken. -/
  | unaccepted (out : assembly.accept packet.message packet.body = none)
  /-- It brings a batch whose schema has no name. -/
  | unnamed {batch : Batch} {after : Assembly}
    (read : assembly.accept packet.message packet.body = some (some batch, after))
    (absent : NamedBatch.ofBatch? batch = none)

/-- What was taken in, against the stream in which the next message has its place. -/
inductive Lags : Option Packet → Assembly → Assembly → Prop where
  /-- All messages before were taken in. -/
  | even {place : Assembly} (rest : place.AtRest) : Lags none place place
  /-- The last message was not, as it has no body. -/
  | waits {before place : Assembly} {packet : Packet} {brought : Option Batch}
    (rest : before.AtRest) (empty : packet.body = [])
    (accepted : before.accept packet.message packet.body = some (brought, place)) :
    Lags (some packet) place (before.awaiting packet.message)

section

variable {place after : Assembly} {packet : Packet}

/-- A stream that is at rest is ready as it is. -/
theorem ready_eq (rest : place.AtRest) : place.ready = place := by
  obtain ⟨expected, gathered, schema, dictionaries⟩ := place
  obtain rfl : expected = .length [] false := rest.expected
  rfl

/-- Behind a batch the stream has the schema of the batch. -/
theorem schema_behind_batch {batch : Batch}
    (accepted : place.accept packet.message packet.body = some (some batch, after)) :
    after.schema = some batch.schema := by
  cases accept_accepts accepted with
  | batch header read => exact batch_schema read

/-- Of the messages that a stream with a schema takes in, only dictionaries change it. -/
theorem accept_unchanged (rest : place.AtRest) (opened : place.schema ≠ none)
    (other : packet.isDictionary = false) {brought : Option Batch}
    (accepted : place.accept packet.message packet.body = some (brought, after)) :
    after = place := by
  -- A second schema would not have been taken in, and a batch leaves the stream as it is.
  cases accept_accepts accepted with
  | empty header => exact ready_eq rest
  | schema header first => exact absurd first opened
  | dictionary header values => simp [Packet.isDictionary, header] at other
  | batch header read => exact ready_eq rest

/-- Taking in a message brings the stream behind it, or leaves the message waiting. -/
theorem Lags.of_taken (rest : place.AtRest) {brought : Option Batch}
    (accepted : place.accept packet.message packet.body = some (brought, after)) :
    Lags (if packet.body = [] then some packet else none) after (place.taken packet).2 := by
  unfold taken
  by_cases empty : packet.body = []
  · rw [if_pos empty, if_pos empty]
    exact .waits rest empty accepted
  · -- The stream behind the message is the same whether it brings a batch or not.
    have behind : (place.settled packet.message packet.body).2 = after := by
      rw [settled, accepted]
      cases brought <;> rfl
    rw [if_neg empty, if_neg empty, behind]
    exact .even ((accept_accepts accepted).atRest rest.gathered)

end

section

variable {place actual after : Assembly} {waiting : Option Packet} {packet : Packet}

/-- Unless a batch waits, a message is taken in as its place has it. -/
theorem Lags.feed_eq (lags : Lags waiting place actual)
    (free : waiting.any Packet.isBatch = false) : actual.feed packet.frame = place.taken packet := by
  cases lags with
  | even rest => exact feed_frame rest packet
  | waits rest empty accepted =>
    -- What waited is settled first; it brings nothing, so the frame is looked at.
    have silent := (accept_accepts accepted).isSome_eq
    rw [feed_awaiting rest empty, ← empty, accepted]
    rw [Option.any_some] at free
    rw [Packet.isBatch] at free
    rw [free] at silent
    rw [Option.isSome_eq_false_iff, Option.isNone_iff_eq_none] at silent
    rw [silent]

/-- Where a batch waits, it is what a message brings, whatever that message is. -/
theorem Lags.feed_batch (lags : Lags waiting place actual)
    (waits : waiting.any Packet.isBatch = true) (packet : Packet) :
    ∃ batch, place.schema = some batch.schema ∧ place.AtRest ∧
      actual.feed packet.frame = (.batch batch, place) := by
  cases lags with
  | even rest => cases waits
  | @waits before place waiting brought rest empty accepted =>
    -- The batch is settled, and the frame of the message is used up by it.
    have accepts := accept_accepts accepted
    have brings := accepts.isSome_eq
    rw [Option.any_some, Packet.isBatch] at waits
    rw [waits] at brings
    obtain ⟨batch, rfl⟩ := Option.isSome_iff_exists.mp brings
    -- The schema is the one that the batch was read with.
    refine ⟨batch, schema_behind_batch accepted, accepts.atRest rest.gathered, ?_⟩
    rw [feed_awaiting rest empty, ← empty, accepted]

/-- A message that is taken in leaves the stream behind it, with at most that message waiting. -/
theorem Lags.step [Platform] (lags : Lags waiting place actual) {brought : Option Batch}
    (accepted : place.accept packet.message packet.body = some (brought, after))
    (kept : waiting.any Packet.isBatch = true → packet.isDictionary = false) :
    Lags ((Piece.message packet).waits waiting) after (actual.takeIn (.message packet)).2 := by
  rw [takeIn_snd, Piece.waits]
  by_cases waits : waiting.any Packet.isBatch = true
  · -- The message is lost, but the stream behind it is the same.
    obtain ⟨batch, opened, rest, fed⟩ := lags.feed_batch waits packet
    have same : after = place := accept_unchanged rest (by simp [opened]) (kept waits) accepted
    rw [if_pos waits, fed, same]
    exact .even rest
  · rw [if_neg waits, lags.feed_eq (Bool.eq_false_iff.mpr waits)]
    -- Whatever waited was settled, so the message finds its place at rest.
    cases lags with
    | even rest => exact .of_taken rest accepted
    | waits rest empty before => exact .of_taken ((accept_accepts before).atRest rest.gathered) accepted

end

/-- A message has a place behind it where it has one itself and is taken in there. -/
theorem place_behind_message {pieces : List Piece} {packet : Packet} {after : Assembly}
    (stands : placeOf (pieces ++ [.message packet]) = some after) :
    ∃ place brought, placeOf pieces = some place ∧
      place.accept packet.message packet.body = some (brought, after) := by
  rw [placeOf, List.foldl_append, List.foldl_cons, List.foldl_nil] at stands
  -- Behind a message that was turned down there is no place.
  cases found : placeOf pieces with
  | none =>
    rw [placeOf] at found
    rw [found] at stands
    cases stands
  | some place =>
    rw [placeOf] at found
    rw [found, behind] at stands
    -- The place behind it is what taking it in has left.
    obtain ⟨⟨brought, after⟩, accepted, rfl⟩ := Option.map_eq_some_iff.mp stands
    exact ⟨place, brought, rfl, accepted⟩

/-- What was taken in lags behind the place of the next message by at most one message. -/
theorem lags_through [Platform] {pieces : List Piece} (kept : KeepsDictionaries pieces)
    {place : Assembly}
    (stands : placeOf pieces = some place) :
    Lags (Piece.waiting pieces) place (through {} pieces) := by
  -- The induction takes the last piece off; a place behind a message takes one before it.
  induction pieces using List.reverseRecOn generalizing place with
  | nil =>
    cases stands
    exact .even atRest_fresh
  | append_singleton pieces piece ih =>
    have before : KeepsDictionaries pieces := fun first packet front =>
      kept first packet (front.trans (List.prefix_append _ _))
    cases piece with
    | stop marked =>
      -- The end of a stream leaves nothing of it, however it was read.
      have waiting : Piece.waiting (pieces ++ [.stop marked]) = none := by
        rw [Piece.waiting, List.foldl_append]
        rfl
      have fresh : placeOf (pieces ++ [.stop marked]) = some {} := by
        rw [placeOf, List.foldl_append]
        rfl
      cases fresh.symm.trans stands
      rw [waiting, through_stop]
      exact .even atRest_fresh
    | message packet =>
      obtain ⟨held, brought, found, accepted⟩ := place_behind_message stands
      -- What was behind by one message is so again; only a dictionary behind a batch would be lost.
      have step := (ih before found).step accepted fun waits => by
        obtain ⟨waiting, same, batch⟩ := Option.any_eq_true _ _ |>.mp waits
        exact kept pieces packet (List.prefix_refl _) ⟨waiting, same, batch⟩
      rw [Piece.waiting, List.foldl_append, through_append]
      exact step

end Assembly

/-- What waits behind some pieces is the last of them, a message without a body. -/
theorem Piece.waiting_eq_some {pieces : List Piece} {packet : Packet}
    (waits : Piece.waiting pieces = some packet) :
    packet.body = [] ∧ ∃ before, pieces = before ++ [.message packet] := by
  -- Only the last piece can be the one that waits, and only if it is a message without a body.
  cases pieces using List.reverseRecOn with
  | nil => cases waits
  | append_singleton pieces piece =>
    simp only [waiting, List.foldl_append, List.foldl_cons, List.foldl_nil] at waits
    cases piece with
    | stop marked => cases waits
    | message last =>
      rw [Piece.waits] at waits
      split at waits
      · cases waits
      · split at waits
        · rename_i empty
          cases waits
          exact ⟨empty, pieces, rfl⟩
        · cases waits

/-- Where every batch has a body, none waits. -/
theorem not_batchWaits_of_bodies {pieces before : List Piece}
    (bodies : ∀ packet, .message packet ∈ pieces → packet.isBatch = true → packet.body ≠ [])
    (front : before <+: pieces) : ¬BatchWaits before := by
  rintro ⟨packet, waits, batch⟩
  obtain ⟨empty, others, rfl⟩ := Piece.waiting_eq_some waits
  exact bodies packet (front.subset (by simp)) batch empty

end EngineClient.Arrow
