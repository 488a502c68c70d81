import EngineClient.Arrow.Assembly
import EngineClient.Proofs.Arrow.Packet

/-! What comes of the messages that a stream is fed, one whole message at a time. -/

namespace EngineClient.Arrow

/-- Whether a message brings a batch. -/
def Message.isBatch (message : Message) : Bool :=
  match message.header with
  | .batch _ => true
  | _ => false

/-- A batch that was read out of a message of some stream. -/
def Batch.IsRead (batch : Batch) : Prop :=
  ∃ (assembly : Assembly) (message : Message) (layout : BatchLayout) (body : Bytes),
    assembly.batch? message layout body = some batch

/-- Such a batch has no more rows than a number of sixty-four bits can tell. -/
theorem Batch.IsRead.length_lt {batch : Batch} (isRead : batch.IsRead) :
    batch.table.length < Nat.pow 2 64 := by
  obtain ⟨assembly, message, layout, body, read⟩ := isRead
  -- A batch that was read has the number of rows that its header gives in sixty-four bits.
  obtain ⟨schema, _, read⟩ := Option.bind_eq_some_iff.mp read
  obtain ⟨parts, _, read⟩ := Option.bind_eq_some_iff.mp read
  obtain ⟨⟨columns, others⟩, _, read⟩ := Option.bind_eq_some_iff.mp read
  simp only [Batch.ofColumns?, Option.ite_none_right_eq_some, Option.some.injEq] at read
  rw [← read.2, Rows.length_ofColumns]
  exact layout.rows.toUInt64.toNat_lt

namespace Assembly

/-- A stream that expects a message and has nothing of it yet. -/
structure AtRest (assembly : Assembly) : Prop where
  expected : assembly.expected = .length [] false
  gathered : assembly.gathered = []

/-- A stream that has not begun is at rest. -/
theorem atRest_fresh : AtRest {} :=
  ⟨rfl, rfl⟩

/-- A stream that has the metadata of a message, and waits for its body. -/
def awaiting (assembly : Assembly) (message : Message) : Assembly :=
  { assembly with expected := .body message }

/-- All that taking in a whole message can come to. -/
inductive Accepts (assembly : Assembly) (message : Message) (body : Bytes) :
    Option Batch × Assembly → Prop where
  /-- The message brings nothing. -/
  | empty (header : message.header = .empty) :
    Accepts assembly message body (none, assembly.ready)
  /-- The stream has its schema. -/
  | schema {schema : Schema} (header : message.header = .schema (some schema))
    (first : assembly.schema = none) :
    Accepts assembly message body (none, { assembly.ready with schema := some schema })
  /-- A dictionary has its values. -/
  | dictionary {id : Int} {layout : BatchLayout} {column : Column}
    (header : message.header = .dictionary id false (some layout))
    (values : assembly.values? message id layout body = some column) :
    Accepts assembly message body (none, { assembly.ready with
      dictionaries := (id, column) :: assembly.dictionaries.filter fun held => held.1 ≠ id })
  /-- A batch has been read. -/
  | batch {layout : BatchLayout} {batch : Batch} (header : message.header = .batch (some layout))
    (read : assembly.batch? message layout body = some batch) :
    Accepts assembly message body (some batch, assembly.ready)

/-- Taking in a whole message comes to nothing else. -/
theorem accept_accepts {assembly : Assembly} {message : Message} {body : Bytes}
    {result : Option Batch × Assembly} (ran : assembly.accept message body = some result) :
    Accepts assembly message body result := by
  -- The cases are those of the header; one that is out of place is not taken in at all.
  unfold accept at ran
  split at ran
  · rename_i header
    cases ran
    exact .empty header
  · rename_i schema header
    split at ran
    · cases ran
    · rename_i first
      cases ran
      exact .schema header (by simpa using first)
  · rename_i id layout header
    obtain ⟨column, values, answer⟩ := Option.bind_eq_some_iff.mp ran
    cases answer
    exact .dictionary header values
  · rename_i layout header
    obtain ⟨batch, read, answer⟩ := Option.bind_eq_some_iff.mp ran
    cases answer
    exact .batch header read
  · cases ran

/-- A batch has the schema of its stream. -/
theorem batch_schema {assembly : Assembly} {message : Message} {layout : BatchLayout}
    {body : Bytes} {batch : Batch} (read : assembly.batch? message layout body = some batch) :
    assembly.schema = some batch.schema := by
  -- The schema is asked for before anything else, and the batch keeps it.
  obtain ⟨schema, held, read⟩ := Option.bind_eq_some_iff.mp read
  obtain ⟨parts, _, read⟩ := Option.bind_eq_some_iff.mp read
  obtain ⟨⟨columns, others⟩, _, read⟩ := Option.bind_eq_some_iff.mp read
  simp only [Batch.ofColumns?, Option.ite_none_right_eq_some, Option.some.injEq] at read
  rw [held, ← read.2]

/-- A batch that a step brings has been read out of a message. -/
theorem isRead_of_step {assembly after : Assembly} {bytes : Bytes} {batch : Batch}
    (ran : assembly.step bytes = .done (.batch batch) after) : batch.IsRead := by
  unfold step at ran
  split at ran
  · -- Neither a length nor metadata bring a batch.
    simp only [stepLength] at ran
    split at ran
    · cases ran
    · split at ran
      · cases ran
      · split at ran <;> cases ran
  · simp only [stepMetadata] at ran
    split at ran
    · cases ran
    · split at ran <;> cases ran
  · -- The body completes the message, which brings the batch.
    simp only [stepBody] at ran
    split at ran
    · cases ran
    · split at ran
      · rename_i accepted
        cases ran
        cases accept_accepts accepted with
        | batch header read => exact ⟨_, _, _, _, read⟩
      · cases ran
      · cases ran
  · cases ran

/-- So has a batch that comes of bytes which are taken in. -/
theorem isRead_of_feed {assembly after : Assembly} {bytes : Bytes} {batch : Batch}
    (ran : assembly.feed bytes = (.batch batch, after)) : batch.IsRead := by
  unfold feed at ran
  generalize 2 * bytes.length + 2 = steps at ran
  -- The induction is on the steps, of which the last one brings the batch.
  induction steps generalizing assembly bytes with
  | zero => cases ran
  | succ steps ih =>
    rw [feedSteps] at ran
    split at ran
    · cases ran
    · -- A step goes on, or it is the one that brings the batch.
      split at ran
      · rename_i stepped
        cases ran
        exact isRead_of_step stepped
      · exact ih ran

namespace Accepts

variable {assembly after : Assembly} {message : Message} {body : Bytes} {batch : Option Batch}

/-- Behind a whole message the next one is expected. -/
theorem atRest (accepts : Accepts assembly message body (batch, after))
    (clear : assembly.gathered = []) : after.AtRest := by
  cases accepts <;> exact ⟨rfl, clear⟩

/-- Batches come of messages that bring one, and of no others. -/
theorem isSome_eq (accepts : Accepts assembly message body (batch, after)) :
    batch.isSome = message.isBatch := by
  -- Whether a message brings a batch is told by its header alone.
  cases accepts with
  | empty header => simp [Message.isBatch, header]
  | schema header first => simp [Message.isBatch, header]
  | dictionary header values => simp [Message.isBatch, header]
  | batch header read => simp [Message.isBatch, header]

/-- The schema of a stream stays, or it is the one that the message brings. -/
theorem schema_eq (accepts : Accepts assembly message body (batch, after)) :
    after.schema = assembly.schema ∨ message.header = .schema after.schema := by
  -- Dictionaries and batches leave the schema alone, and a second schema is not taken in.
  cases accepts with
  | empty header => exact .inl rfl
  | schema header first => exact .inr header
  | dictionary header values => exact .inl rfl
  | batch header read => exact .inl rfl

end Accepts

/-- Nothing comes of no bytes. -/
theorem feedSteps_nil (steps : Nat) (assembly : Assembly) :
    assembly.feedSteps steps [] = (.more, assembly) := by
  cases steps <;> rfl

/-- A step that leaves bytes is followed by the next one. -/
theorem feedSteps_next {assembly after : Assembly} {bytes rest : Bytes}
    (present : bytes ≠ []) (stepped : assembly.step bytes = .next after rest) (steps : Nat) :
    assembly.feedSteps (steps + 1) bytes = after.feedSteps steps rest := by
  rw [feedSteps, if_neg (by simpa using present), stepped]

/-- A step that brings something is the last one. -/
theorem feedSteps_done {assembly after : Assembly} {bytes : Bytes} {outcome : Outcome}
    (present : bytes ≠ []) (stepped : assembly.step bytes = .done outcome after) (steps : Nat) :
    assembly.feedSteps (steps + 1) bytes = (outcome, after) := by
  rw [feedSteps, if_neg (by simpa using present), stepped]

end Assembly

namespace Packet

/-- The body of a packet is as long as its message announces. -/
theorem bodySize_eq (packet : Packet) :
    Assembly.bodySize packet.message = packet.body.length := by
  -- Within the limit the announced length is its own remainder.
  have fits := packet.bodyFits
  have limit : Frame.maxBody = 2147483648 := rfl
  have modulus : Nat.pow 2 64 = 18446744073709551616 := rfl
  rw [Assembly.bodySize, packet.announced, modulus]
  omega

/-- A frame has at least a byte behind its length. -/
theorem frame_length (packet : Packet) : 9 ≤ packet.frame.length := by
  have present := packet.metadata_length_pos
  simp only [frame, Frame.opening, Frame.marker, if_true, List.length_append, List.length_cons,
    List.length_nil, Bytes.length_ofNat]
  omega

end Packet

namespace Assembly

variable {assembly : Assembly}

/-- The metadata of a packet lead a stream at rest to wait for its body. -/
theorem feedSteps_metadata (rest : assembly.AtRest) (packet : Packet) (steps : Nat) :
    assembly.feedSteps (steps + 3) packet.frame
      = (assembly.awaiting packet.message).feedSteps steps packet.body := by
  have present := packet.metadata_length_pos
  -- The length is read back as it was written, and is not zero.
  have size := Frame.toNat_size packet.metadataFits
  have four := Bytes.length_ofNat 4 packet.metadata.length
  -- The marker, the length and the metadata take a step each.
  have marker : assembly.step packet.frame = .next { assembly with expected := .length [] true }
      (Bytes.ofNat 4 packet.metadata.length ++ packet.metadata ++ packet.body) := by
    simp [step, rest.expected, stepLength, Packet.frame, Frame.opening, Frame.marker]
  have length : step { assembly with expected := .length [] true }
      (Bytes.ofNat 4 packet.metadata.length ++ packet.metadata ++ packet.body)
      = .next { assembly with expected := .metadata packet.metadata.length }
        (packet.metadata ++ packet.body) := by
    have taken : (Bytes.ofNat 4 packet.metadata.length ++ packet.metadata ++ packet.body).take 4
        = Bytes.ofNat 4 packet.metadata.length := by
      rw [List.append_assoc]
      exact List.take_left' four
    have left : (Bytes.ofNat 4 packet.metadata.length ++ packet.metadata ++ packet.body).drop 4
        = packet.metadata ++ packet.body := by
      rw [List.append_assoc]
      exact List.drop_left' four
    simp only [step, stepLength, List.length_nil, Nat.sub_zero, List.nil_append, taken, left, four,
      size, Nat.lt_irrefl, if_false, Bool.not_true, Bool.false_eq_true, false_and]
    rw [if_neg (by omega)]
  have metadata : step { assembly with expected := .metadata packet.metadata.length }
      (packet.metadata ++ packet.body)
      = .next (assembly.awaiting packet.message) packet.body := by
    simp only [step, stepMetadata, rest.gathered, List.length_nil, Nat.sub_zero, List.nil_append,
      List.take_left, List.drop_left, Nat.lt_irrefl, if_false, packet.parsed, awaiting]
  have some : packet.metadata ≠ [] := List.length_pos_iff.mp present
  have frame := packet.frame_length
  -- Behind these three steps only the body is left.
  rw [feedSteps_next (List.length_pos_iff.mp (by omega)) marker,
    feedSteps_next (by simp [some]) length, feedSteps_next (by simp [some]) metadata]

/-- A body completes the message that waits for it, and what follows the body is left. -/
theorem step_awaiting (rest : assembly.AtRest) (packet : Packet) (others : Bytes) :
    (assembly.awaiting packet.message).step (packet.body ++ others)
      = match assembly.accept packet.message packet.body with
        | some (some batch, after) => .done (.batch batch) after
        | some (none, after) => .next after others
        | none => .done .broken (assembly.awaiting packet.message) := by
  -- What is expected plays no part in taking in a whole message.
  obtain ⟨expected, gathered, schema, dictionaries⟩ := assembly
  obtain ⟨rfl, rfl⟩ : expected = .length [] false ∧ gathered = [] := ⟨rest.expected, rest.gathered⟩
  simp only [step, awaiting, stepBody, List.length_nil, Nat.sub_zero, List.nil_append,
    packet.bodySize_eq, List.take_left, List.drop_left, Nat.lt_irrefl, if_false]
  rfl

/-- What comes of a whole message. -/
def settled (assembly : Assembly) (message : Message) (body : Bytes) : Outcome × Assembly :=
  match assembly.accept message body with
  | some (some batch, after) => (.batch batch, after)
  | some (none, after) => (.more, after)
  | none => (.broken, assembly.awaiting message)

/-- A message without a body waits for it; one with a body is taken in. -/
def taken (assembly : Assembly) (packet : Packet) : Outcome × Assembly :=
  if packet.body = [] then (.more, assembly.awaiting packet.message)
  else assembly.settled packet.message packet.body

/-- A body takes two steps at most. -/
theorem feedSteps_body (rest : assembly.AtRest) (packet : Packet) (steps : Nat) :
    (assembly.awaiting packet.message).feedSteps (steps + 2) packet.body
      = assembly.taken packet := by
  unfold taken settled
  -- One step completes the body, and another finds that nothing is left behind it.
  by_cases empty : packet.body = []
  · rw [if_pos empty, empty, feedSteps_nil]
  · have stepped := step_awaiting rest packet []
    rw [List.append_nil] at stepped
    rw [if_neg empty]
    -- What the body is taken in as is what the step answers.
    split at stepped
    · rw [feedSteps_done empty stepped]
    · rw [feedSteps_next empty stepped, feedSteps_nil]
    · rw [feedSteps_done empty stepped]

/-- A stream at rest takes in a frame in five steps at most. -/
theorem feedSteps_frame (rest : assembly.AtRest) (packet : Packet) (steps : Nat) :
    assembly.feedSteps (steps + 5) packet.frame = assembly.taken packet := by
  rw [feedSteps_metadata rest packet (steps + 2), feedSteps_body rest packet steps]

/-- A stream at rest takes in a frame. -/
theorem feed_frame (rest : assembly.AtRest) (packet : Packet) :
    assembly.feed packet.frame = assembly.taken packet := by
  -- A frame is allowed more steps than it has bytes, and it has more than five of them.
  have length := packet.frame_length
  obtain ⟨steps, enough⟩ : ∃ steps, 2 * packet.frame.length + 2 = steps + 5 :=
    ⟨2 * packet.frame.length - 3, by omega⟩
  rw [feed, enough, feedSteps_frame rest]

/-- A frame first completes the message without a body that waits before it. Where that message
brings a batch, nothing is left of the frame. -/
theorem feed_awaiting (rest : assembly.AtRest) {waiting : Packet} (empty : waiting.body = [])
    (packet : Packet) :
    (assembly.awaiting waiting.message).feed packet.frame
      = match assembly.accept waiting.message [] with
        | some (some batch, after) => (.batch batch, after)
        | some (none, after) => after.taken packet
        | none => (.broken, assembly.awaiting waiting.message) := by
  have length := packet.frame_length
  have present : packet.frame ≠ [] := List.length_pos_iff.mp (by omega)
  obtain ⟨steps, enough⟩ : ∃ steps, 2 * packet.frame.length + 2 = steps + 6 :=
    ⟨2 * packet.frame.length - 4, by omega⟩
  -- The step for the empty body takes none of the frame.
  have stepped := step_awaiting rest waiting packet.frame
  rw [empty, List.nil_append] at stepped
  rw [feed, enough]
  split at stepped
  · rw [feedSteps_done present stepped]
  -- Where the waiting message brings nothing, the frame is fed as if nothing had waited.
  · rename_i accepted
    have afterRest := (accept_accepts accepted).atRest rest.gathered
    rw [feedSteps_next present stepped, feedSteps_frame afterRest]
  · rw [feedSteps_done present stepped]

end Assembly

end EngineClient.Arrow
