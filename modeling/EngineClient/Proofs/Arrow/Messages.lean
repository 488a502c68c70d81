import EngineClient.Proofs.Arrow.Batches
import EngineClient.Proofs.Arrow.Heeded

/-! What a reader hands out of the messages of a stream, one fetch after another. -/

namespace EngineClient.Arrow

/-- A batch under a name. -/
def Batch.tag (name : String) (batch : Batch) : NamedBatch :=
  ⟨name, batch.schema, batch.table⟩

/-- A message that brings no schema but one of a name. -/
def Packet.Under (name : String) (packet : Packet) : Prop :=
  ∀ schema, packet.message.header = .schema (some schema) → schema.name? = some name

/-- A stream that has no schema but one of a name. -/
def Assembly.Under (name : String) (assembly : Assembly) : Prop :=
  ∀ schema, assembly.schema = some schema → schema.name? = some name

namespace Assembly.Accepts

variable {assembly after : Assembly} {packet : Packet} {name : String}

/-- A stream keeps its name. -/
theorem under {batch : Option Batch}
    (accepts : Accepts assembly packet.message packet.body (batch, after))
    (stream : assembly.Under name) (message : packet.Under name) : after.Under name := by
  -- The schema is the one that the stream had, or the one that the message brings.
  intro schema held
  rcases accepts.schema_eq with same | brought
  · exact stream schema (same ▸ held)
  · exact message schema (held ▸ brought)

/-- A batch carries the name of its stream. -/
theorem ofBatch_eq {batch : Batch}
    (accepts : Accepts assembly packet.message packet.body (some batch, after))
    (stream : assembly.Under name) : NamedBatch.ofBatch? batch = some (batch.tag name) := by
  cases accepts with
  | batch header read =>
    rw [NamedBatch.ofBatch?, stream _ (batch_schema read)]
    rfl

end Assembly.Accepts

variable [Platform]

namespace Batches

/-- A batch that is fetched has been read out of a message, and is put under the name of its schema. -/
theorem exists_tag_of_fetch {batches rest : Batches} {named : NamedBatch}
    (ran : batches.fetch = some (.ok (some named), rest)) :
    ∃ name batch, named = Batch.tag name batch ∧ batch.IsRead := by
  -- Only a message that brings a batch ends the search with one.
  fun_induction fetch batches with
  | case1 => cases ran
  | case2 => cases ran
  | case3 => cases ran
  | case4 batches source read ih => exact ih ran
  | case5 batches source frame read assembly fed ih => exact ih ran
  | case6 => cases ran
  -- The batch came of a message that was fed, and got the name of its schema.
  | case7 batches frame source read batch assembly fed named found =>
    cases ran
    obtain ⟨name, _, rfl⟩ := Option.map_eq_some_iff.mp found
    exact ⟨name, batch, rfl, Assembly.isRead_of_feed fed⟩
  | case8 => cases ran

/-- A reader that has taken in a part of a stream, and has some bytes before it. -/
structure Stands (reader : Batches) (assembly : Assembly) (bytes : Bytes) : Prop where
  source : reader.source.Holds bytes
  assembly : reader.assembly = assembly
  held : reader.held = none

/-- A reader that hands out some batches, and then does what another one does. -/
inductive Passes : Batches → List NamedBatch → Batches → Prop where
  /-- It does so at once. -/
  | same {one other : Batches} (fetched : one.fetch = other.fetch) : Passes one [] other
  /-- It hands out a batch before. -/
  | batch {one middle other : Batches} {named : NamedBatch} {rest : List NamedBatch}
    (fetched : one.fetch = some (.ok (some named), middle)) (behind : Passes middle rest other) :
    Passes one (named :: rest) other

/-- A reader that fails in the end. -/
inductive Breaks : Batches → Prop where
  /-- It does so at once. -/
  | now {reader after : Batches} {error : Error} (fetched : reader.fetch = some (.error error, after)) :
    Breaks reader
  /-- It hands out a batch before. -/
  | batch {reader middle : Batches} {named : NamedBatch}
    (fetched : reader.fetch = some (.ok (some named), middle)) (behind : Breaks middle) :
    Breaks reader

/-- A reader that comes to hand out some batches and then goes on as one of a kind, or that comes to
fail. -/
def Comes (reader : Batches) (named : Option (List NamedBatch)) (kind : Batches → Prop) : Prop :=
  match named with
  | some named => ∃ after, reader.Passes named after ∧ kind after
  | none => reader.Breaks

/-- What a reader passes behind the batches of another one comes behind these. -/
theorem Passes.append {one middle other : Batches} {named others : List NamedBatch}
    (first : Passes one named middle) (second : Passes middle others other) :
    Passes one (named ++ others) other := by
  -- Where the first passes nothing, the second begins with the same fetch.
  induction first with
  | same fetched => cases second with
    | same behind => exact .same (fetched.trans behind)
    | batch next behind => exact .batch (fetched.trans next) behind
  | batch fetched behind ih => exact .batch fetched (ih second)

/-- A reader fails where one fails that it comes to. -/
theorem Passes.breaks {one other : Batches} {named : List NamedBatch}
    (first : Passes one named other) (breaks : Breaks other) : Breaks one := by
  -- Batches that are handed out before the failure do not prevent it.
  induction first with
  | same fetched => cases breaks with
    | now failed => exact .now (fetched.trans failed)
    | batch next behind => exact .batch (fetched.trans next) behind
  | batch fetched behind ih => exact .batch fetched (ih breaks)

/-- A reader comes to what one comes to that it passes some batches to. -/
theorem Passes.comes {one middle : Batches} {named : List NamedBatch}
    {others : Option (List NamedBatch)} {kind : Batches → Prop} (first : Passes one named middle)
    (second : Comes middle others kind) : Comes one (others.map (named ++ ·)) kind := by
  -- A failure behind the batches is a failure of all.
  cases others with
  | none => exact first.breaks second
  | some others =>
    obtain ⟨after, passes, reached⟩ := second
    exact ⟨after, first.append passes, reached⟩

/-- A reader comes to what one comes to that does the same. -/
theorem Comes.same {one other : Batches} {named : Option (List NamedBatch)}
    {kind : Batches → Prop} (fetched : one.fetch = other.fetch) (comes : Comes other named kind) :
    Comes one named kind := by
  -- What does the same comes to the same.
  cases named with
  | none => exact (Passes.same fetched).breaks comes
  | some named =>
    obtain ⟨after, passes, reached⟩ := comes
    exact ⟨after, (Passes.same fetched).append passes, reached⟩

section

variable {reader : Batches} {assembly : Assembly} {bytes : Bytes}

/-- What becomes of a frame when it is fed, which leaves a source behind it. -/
def fed (reader : Batches) (frame : Bytes) (source : Source) :
    Assembly.Outcome × Assembly → Answer NamedBatch
  | (.more, assembly) => fetch { reader with source, assembly }
  | (.broken, assembly) =>
    some (.error (undecodable assembly frame), { reader with source, assembly })
  | (.batch batch, assembly) =>
    match NamedBatch.ofBatch? batch with
    | some named => some (.ok (some named), { reader with source, assembly })
    | none => some (.error (unnamed frame), { reader with source, assembly })

/-- Fetching feeds the frame that was read. -/
theorem fetch_frame {frame : Bytes} {source : Source}
    (ran : Frame.read reader.source = some (.ok (some (.message frame)), source)) :
    reader.fetch = reader.fed frame source (reader.assembly.feed frame) := by
  rw [fetch_eq, ran]
  rfl

/-- Fetching passes the end of a stream, and begins the next one. -/
theorem fetch_end {marked : Bool}
    (stands : reader.Stands assembly (Frame.opening marked 0 ++ bytes)) :
    ∃ after : Batches, after.Stands {} bytes ∧ reader.fetch = after.fetch := by
  obtain ⟨source, ran, holds⟩ := Frame.yields_read_end marked bytes _ stands.source
  refine ⟨{ reader with source, assembly := {} }, ⟨holds, rfl, stands.held⟩, ?_⟩
  rw [fetch_eq, ran]

/-- Fetching finds the end of the output. -/
theorem fetch_nil (stands : reader.Stands assembly []) :
    ∃ after : Batches, after.Stands assembly [] ∧ reader.fetch = some (.ok none, after) := by
  obtain ⟨source, ran, holds⟩ := Frame.yields_read_nil _ stands.source
  refine ⟨{ reader with source }, ⟨holds, stands.assembly, stands.held⟩, ?_⟩
  rw [fetch_eq, ran]

/-- A reader hands out what some messages bring, and then begins the next stream. -/
def HandsOut (name : String) (bytes : Bytes) (reader : Batches) (assembly : Assembly)
    (messages : List Packet) : Prop :=
  Comes reader ((assembly.decode messages).map (List.map (Batch.tag name))) (Stands · {} bytes)

variable {name : String} {tail : Bytes} {packet : Packet} {messages : List Packet} {source : Source}
  {frame : Bytes}

/-- What a reader hands out when a message is taken in, by what it hands out behind it. -/
theorem handsOut_settled (holds : source.Holds tail) (held : reader.held = none)
    (stream : assembly.Under name)
    (fetched : reader.fetch
      = reader.fed frame source (assembly.settled packet.message packet.body))
    (behind : ∀ (batch : Option Batch) (after : Assembly) (next : Batches),
      assembly.accept packet.message packet.body = some (batch, after) → next.Stands after tail →
      HandsOut name bytes next after messages) :
    HandsOut name bytes reader assembly (packet :: messages) := by
  -- Taking in the message is the first step of decoding and the first of the reader.
  rw [Assembly.settled] at fetched
  rw [HandsOut, Assembly.decode]
  cases accepted : assembly.accept packet.message packet.body with
  | none =>
    rw [accepted] at fetched
    exact .now fetched
  | some result =>
    obtain ⟨batch, after⟩ := result
    rw [accepted] at fetched
    -- Behind the message the reader stands before the tail, and the batch comes before the others.
    have next : Stands { reader with source, assembly := after } after tail := ⟨holds, rfl, held⟩
    have split : ((after.decode messages).map (batch.toList ++ ·)).map (List.map (Batch.tag name))
        = ((after.decode messages).map (List.map (Batch.tag name))).map
          (batch.toList.map (Batch.tag name) ++ ·) := by
      cases after.decode messages <;> simp
    have accepts := Assembly.accept_accepts accepted
    simp only [split]
    -- What the message brings is handed out first.
    refine Passes.comes ?_ (behind batch after _ accepted next)
    cases batch with
    | none => exact .same fetched
    | some batch =>
      simp only [fed, accepts.ofBatch_eq stream] at fetched
      exact .batch fetched (.same rfl)

/-- A reader at rest takes in the next message, or waits for the body that it has not. -/
theorem handsOut_atRest (rest : assembly.AtRest) (stream : assembly.Under name)
    (stands : reader.Stands assembly (packet.written ++ tail))
    (waits : ∀ next : Batches, packet.body = [] →
      next.Stands (assembly.awaiting packet.message) tail →
      HandsOut name bytes next assembly (Packet.heeded (packet :: messages)))
    (behind : ∀ (batch : Option Batch) (after : Assembly) (next : Batches),
      assembly.accept packet.message packet.body = some (batch, after) → next.Stands after tail →
      HandsOut name bytes next after (Packet.heeded messages)) :
    HandsOut name bytes reader assembly (Packet.heeded (packet :: messages)) := by
  obtain ⟨source, ran, holds⟩ := Frame.yields_read_packet packet tail reader.source stands.source
  have fetched := fetch_frame ran
  rw [stands.assembly, Assembly.feed_frame rest, Assembly.taken] at fetched
  -- A message without a body waits; one with a body is settled by this very frame.
  by_cases empty : packet.body = []
  · rw [if_pos empty] at fetched
    exact .same fetched (waits _ empty ⟨holds, rfl, stands.held⟩)
  · rw [if_neg empty] at fetched
    rw [Packet.heeded_cons_of_body empty]
    exact handsOut_settled holds stands.held stream fetched behind

/-- A reader that waits for a body that its message has not takes in the message at the next frame.
If that brings a batch, the frame is not looked at; if not, it is as if nothing had waited. -/
theorem handsOut_waiting {waiting : Packet} (empty : waiting.body = []) (rest : assembly.AtRest)
    (stream : assembly.Under name)
    (stands : reader.Stands (assembly.awaiting waiting.message) (packet.written ++ tail))
    (goesOn : ∀ (after : Assembly) (next : Batches),
      assembly.accept waiting.message waiting.body = some (none, after) →
      next.Stands after (packet.written ++ tail) →
      HandsOut name bytes next after (Packet.heeded (packet :: messages)))
    (behind : ∀ (batch : Option Batch) (after : Assembly) (next : Batches),
      assembly.accept waiting.message waiting.body = some (batch, after) → next.Stands after tail →
      HandsOut name bytes next after (Packet.heeded messages)) :
    HandsOut name bytes reader assembly (Packet.heeded (waiting :: packet :: messages)) := by
  obtain ⟨source, ran, holds⟩ := Frame.yields_read_packet packet tail reader.source stands.source
  have fetched := fetch_frame ran
  rw [stands.assembly, Assembly.feed_awaiting rest empty, ← empty] at fetched
  -- The header alone tells whether the waiting message brings a batch.
  have silent {batch : Option Batch} {after : Assembly}
      (accepted : assembly.accept waiting.message waiting.body = some (batch, after)) :
      batch.isSome = waiting.isBatch := (Assembly.accept_accepts accepted).isSome_eq
  -- Whether the frame is looked at depends on whether the waiting message brings a batch.
  cases batch : waiting.isBatch with
  | true =>
    -- The frame of the other message is used up by the batch that was waiting.
    have settled : reader.fetch
        = reader.fed packet.frame source (assembly.settled waiting.message waiting.body) := by
      rw [fetched, Assembly.settled]
      cases accepted : assembly.accept waiting.message waiting.body with
      | none => rfl
      | some result => cases result with
        | mk brought after => cases brought with
          | none => simp [← silent accepted] at batch
          | some brought => rfl
    rw [Packet.heeded_cons_of_empty empty batch]
    exact handsOut_settled holds stands.held stream settled behind
  | false =>
    rw [Packet.heeded_cons_of_silent batch]
    cases accepted : assembly.accept waiting.message waiting.body with
    | none =>
      rw [accepted] at fetched
      rw [HandsOut, Assembly.decode, accepted]
      exact .now fetched
    | some result => cases result with
      | mk brought after => cases brought with
        | some brought => simp [← silent accepted] at batch
        | none =>
          have middle : Stands { reader with assembly := after } after (packet.written ++ tail) :=
            ⟨stands.source, rfl, stands.held⟩
          -- The same frame is fed to a stream in which nothing waits any more.
          have same : reader.fetch = fetch { reader with assembly := after } := by
            have afterRest := (Assembly.accept_accepts accepted).atRest rest.gathered
            have next : fetch { reader with assembly := after }
                = fed { reader with assembly := after } packet.frame source
                  (after.feed packet.frame) := fetch_frame ran
            rw [fetched, accepted, next, Assembly.feed_frame afterRest]
            rfl
          -- So the reader goes on as if the waiting message had been taken in before.
          have onward := goesOn after _ accepted middle
          rw [HandsOut, Assembly.decode, accepted]
          simp only [Option.toList_none, List.nil_append, Option.map_id_fun']
          exact .same same onward

end

/-- A reader hands out the batches of the messages that take effect, whether it is at rest before
them or waits for the body of one that has none. -/
theorem handsOut_heeded {name : String} {bytes : Bytes} {marked : Bool} {messages : List Packet}
    (named : ∀ packet ∈ messages, packet.Under name) {reader : Batches} {assembly : Assembly}
    (rest : assembly.AtRest) (stream : assembly.Under name) :
    (reader.Stands assembly
        (messages.flatMap Packet.written ++ (Frame.opening marked 0 ++ bytes)) →
      HandsOut name bytes reader assembly (Packet.heeded messages)) ∧
    (∀ waiting : Packet, waiting.body = [] → waiting.Under name →
      reader.Stands (assembly.awaiting waiting.message)
        (messages.flatMap Packet.written ++ (Frame.opening marked 0 ++ bytes)) →
      HandsOut name bytes reader assembly (Packet.heeded (waiting :: messages))) := by
  -- The induction is on the messages ahead; one that waits is no longer among them.
  induction messages generalizing reader assembly with
  | nil =>
    refine ⟨fun stands => ?_, fun waiting empty under stands => ?_⟩
    · obtain ⟨after, begins, fetched⟩ := fetch_end stands
      exact ⟨after, .same fetched, begins⟩
    · obtain ⟨after, begins, fetched⟩ := fetch_end stands
      rw [Packet.heeded, if_pos empty]
      exact ⟨after, .same fetched, begins⟩
  | cons packet messages ih =>
    have under : packet.Under name := named packet List.mem_cons_self
    have others : ∀ other ∈ messages, other.Under name := fun other member =>
      named other (List.mem_cons_of_mem _ member)
    -- Whatever was taken in, the stream is at rest behind it and keeps its name.
    have onward {accepted : Packet} {batch : Option Batch} {before after : Assembly}
        (rest : before.AtRest) (stream : before.Under name) (named : accepted.Under name)
        (ran : before.accept accepted.message accepted.body = some (batch, after)) :
        after.AtRest ∧ after.Under name :=
      ⟨(Assembly.accept_accepts ran).atRest rest.gathered,
        (Assembly.accept_accepts ran).under stream named⟩
    -- At rest the next message is taken in or waits, and the others follow by induction.
    have first {reader : Batches} {assembly : Assembly} (rest : assembly.AtRest)
        (stream : assembly.Under name)
        (stands : reader.Stands assembly (packet.written ++
          (messages.flatMap Packet.written ++ (Frame.opening marked 0 ++ bytes)))) :
        HandsOut name bytes reader assembly (Packet.heeded (packet :: messages)) := by
      refine handsOut_atRest rest stream stands
        (fun next empty waits => (ih others rest stream).2 packet empty under waits)
        fun batch after next accepted begins => ?_
      obtain ⟨afterRest, afterStream⟩ := onward rest stream under accepted
      exact (ih others afterRest afterStream).1 begins
    simp only [List.flatMap_cons, List.append_assoc]
    refine ⟨first rest stream, fun waiting empty before stands => ?_⟩
    -- A message that waits is settled first: the next one then takes effect, or is lost with it.
    refine handsOut_waiting empty rest stream stands (fun after next accepted begins => ?_)
      fun batch after next accepted begins => ?_
    · obtain ⟨afterRest, afterStream⟩ := onward rest stream before accepted
      exact first afterRest afterStream begins
    · obtain ⟨afterRest, afterStream⟩ := onward rest stream before accepted
      exact (ih others afterRest afterStream).1 begins

end Batches

end EngineClient.Arrow
