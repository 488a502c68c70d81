import EngineClient.Proofs.Arrow.Feed

/-! Which messages of a stream take effect, when some of them have no body. -/

namespace EngineClient.Arrow

/-- Takes in whole messages one after another; `none` where one is out of place or broken. -/
def Assembly.decode : Assembly → List Packet → Option (List Batch)
  | _, [] => some []
  | assembly, packet :: rest =>
    match assembly.accept packet.message packet.body with
    | some (batch, after) => (after.decode rest).map (batch.toList ++ ·)
    | none => none

namespace Packet

/-- Whether a packet brings a batch. -/
def isBatch (packet : Packet) : Bool :=
  packet.message.isBatch

/-- The messages of a stream that take effect. One without a body does so when bytes come behind it
in the stream, and where it brings a batch, it takes the place of the message that these are of. -/
def heeded : List Packet → List Packet
  | [] => []
  | [packet] => if packet.body = [] then [] else [packet]
  | packet :: next :: rest =>
    if packet.body = [] ∧ packet.isBatch then packet :: heeded rest
    else packet :: heeded (next :: rest)

/-- Messages in which a batch without a body is the last one, or right before another batch. -/
inductive Loses : List Packet → Prop where
  /-- It is the last one. -/
  | last {packet : Packet} (empty : packet.body = []) (batch : packet.isBatch = true) :
    Loses [packet]
  /-- It is right before another batch. -/
  | next {packet other : Packet} {rest : List Packet} (empty : packet.body = [])
    (batch : packet.isBatch = true) (another : other.isBatch = true) :
    Loses (packet :: other :: rest)
  /-- There are messages before it. -/
  | later {packet : Packet} {rest : List Packet} (loses : Loses rest) : Loses (packet :: rest)

/-- Among batches alone, one without a body is the last one or right before another. -/
theorem Loses.of_empty {packets : List Packet}
    (batches : ∀ packet ∈ packets, packet.isBatch = true)
    (empty : ∃ packet ∈ packets, packet.body = []) : Loses packets := by
  -- The induction goes up to the first batch without a body; what is behind it is a batch too.
  induction packets with
  | nil =>
    obtain ⟨packet, member, _⟩ := empty
    cases member
  | cons packet rest ih =>
    have batch : packet.isBatch = true := batches packet List.mem_cons_self
    have others : ∀ other ∈ rest, other.isBatch = true := fun other member =>
      batches other (List.mem_cons_of_mem _ member)
    -- A first batch without a body is lost, or the one behind it is.
    by_cases first : packet.body = []
    · cases rest with
      | nil => exact .last first batch
      | cons next rest => exact .next first batch (others next List.mem_cons_self)
    · obtain ⟨other, member, empty⟩ := empty
      rcases List.mem_cons.mp member with rfl | behind
      · exact absurd empty first
      · exact .later (ih others ⟨other, behind, empty⟩)

/-- A message with a body takes effect. -/
theorem heeded_cons_of_body {packet : Packet} (present : packet.body ≠ []) (rest : List Packet) :
    heeded (packet :: rest) = packet :: heeded rest := by
  cases rest with
  | nil => simp [heeded, present]
  | cons next rest => rw [heeded, if_neg fun both => present both.1]

/-- A message without a batch takes effect when another one follows. -/
theorem heeded_cons_of_silent {packet : Packet} (silent : packet.isBatch = false) (next : Packet)
    (rest : List Packet) :
    heeded (packet :: next :: rest) = packet :: heeded (next :: rest) := by
  rw [heeded, if_neg (by simp [silent])]

/-- A batch without a body takes the place of the message behind it. -/
theorem heeded_cons_of_empty {packet : Packet} (empty : packet.body = [])
    (batch : packet.isBatch = true) (next : Packet) (rest : List Packet) :
    heeded (packet :: next :: rest) = packet :: heeded rest := by
  rw [heeded, if_pos ⟨empty, batch⟩]

/-- The messages that take effect are some of all, in their order. -/
theorem heeded_sublist (packets : List Packet) : (heeded packets).Sublist packets := by
  -- The cases are those of the definition: a message is kept, or it is skipped.
  fun_induction heeded packets with
  | case1 => exact .slnil
  | case2 packet empty => exact List.nil_sublist _
  | case3 packet present => exact List.Sublist.refl _
  | case4 packet next rest both ih => exact (ih.cons next).cons_cons packet
  | case5 packet next rest either ih => exact ih.cons_cons packet

/-- No more batches take effect than there are. -/
theorem countP_heeded_le (packets : List Packet) :
    (heeded packets).countP isBatch ≤ packets.countP isBatch :=
  (heeded_sublist packets).countP_le

/-- Where a batch without a body is the last message or right before another batch, not all batches
take effect. -/
theorem Loses.countP_heeded_lt {packets : List Packet} (loses : Loses packets) :
    (heeded packets).countP isBatch < packets.countP isBatch := by
  -- The cases are those of the messages that take effect: what is skipped is one that was counted.
  fun_induction heeded packets with
  | case1 => cases loses
  | case2 packet empty => cases loses with
    | last empty batch => simp [batch]
    | later loses => cases loses
  | case3 packet present => cases loses with
    | last empty batch => exact absurd empty present
    | later loses => cases loses
  | case4 packet next rest both ih =>
    -- The message behind the batch is gone: it is a batch itself, or another one is lost later.
    have fewer := countP_heeded_le rest
    have lost : (heeded rest).countP isBatch < (next :: rest).countP isBatch := by
      rw [List.countP_cons]
      cases loses with
      | next empty batch another => simp only [another, if_true]; omega
      | later loses => cases loses with
        | last empty batch => simp only [batch, if_true]; omega
        | next empty batch another => simp only [batch, if_true]; omega
        | later loses => have := ih loses; omega
    rw [List.countP_cons, List.countP_cons]
    omega
  -- The first message takes effect, so one behind it is lost.
  | case5 packet next rest either ih => cases loses with
    | next empty batch another => exact absurd ⟨empty, batch⟩ either
    | later loses =>
      have fewer := ih loses
      rw [List.countP_cons, List.countP_cons]
      omega

/-- Where every batch has a body, all messages take effect but perhaps a last one without a batch. -/
theorem heeded_eq_or {packets : List Packet}
    (present : ∀ packet ∈ packets, packet.isBatch = true → packet.body ≠ []) :
    heeded packets = packets ∨
      ∃ packet, packet.isBatch = false ∧ packets = heeded packets ++ [packet] := by
  -- No message takes the place of another one, so only a last one can go unheeded.
  fun_induction heeded packets with
  | case1 => exact .inl rfl
  | case2 packet empty =>
    refine .inr ⟨packet, ?_, rfl⟩
    cases batch : packet.isBatch with
    | false => rfl
    | true => exact absurd empty (present packet List.mem_cons_self batch)
  | case3 packet body => exact .inl rfl
  | case4 packet next rest both ih =>
    exact absurd both.1 (present packet List.mem_cons_self both.2)
  -- What is in front takes effect, and the rest is as the induction has it.
  | case5 packet next rest either ih =>
    rcases ih fun other member => present other (List.mem_cons_of_mem _ member) with
      all | ⟨last, silent, split⟩
    · exact .inl (by rw [all])
    · exact .inr ⟨last, silent, by rw [List.cons_append, ← split]⟩

end Packet

namespace Assembly

/-- Each message with a batch brings one. -/
theorem decode_length {assembly : Assembly} {packets : List Packet} {batches : List Batch}
    (ran : assembly.decode packets = some batches) :
    batches.length = packets.countP Packet.isBatch := by
  -- Each message adds a batch exactly if its header announces one.
  induction packets generalizing assembly batches with
  | nil =>
    cases ran
    rfl
  | cons packet rest ih =>
    rw [decode] at ran
    -- A message that is turned down stops the decoding.
    split at ran
    · rename_i batch after accepted
      obtain ⟨others, behind, rfl⟩ := Option.map_eq_some_iff.mp ran
      have brought : batch.isSome = packet.isBatch := (accept_accepts accepted).isSome_eq
      rw [List.length_append, ih behind, List.countP_cons, ← brought]
      cases batch <;> simp [Nat.add_comm]
    · cases ran

/-- A last message without a batch makes no difference. -/
theorem decode_of_append {assembly : Assembly} {packets : List Packet} {last : Packet}
    {batches : List Batch} (silent : last.isBatch = false)
    (ran : assembly.decode (packets ++ [last]) = some batches) :
    assembly.decode packets = some batches := by
  -- The last message is taken in behind all others, and no batch comes of it.
  induction packets generalizing assembly batches with
  | nil =>
    have none : batches.length = [last].countP Packet.isBatch := decode_length ran
    have empty : batches = [] := by simpa [silent] using none
    rw [empty, decode]
  | cons packet rest ih =>
    rw [List.cons_append, decode] at ran
    rw [decode]
    -- Each message in front is taken in alike, with the last one or without it.
    split at ran
    · rename_i batch after accepted
      obtain ⟨others, behind, rfl⟩ := Option.map_eq_some_iff.mp ran
      simp only [ih behind, Option.map_some]
    · cases ran

/-- Where every batch has a body, the messages that take effect bring all batches. -/
theorem decode_heeded {assembly : Assembly} {packets : List Packet} {batches : List Batch}
    (present : ∀ packet ∈ packets, packet.isBatch = true → packet.body ≠ [])
    (ran : assembly.decode packets = some batches) :
    assembly.decode (Packet.heeded packets) = some batches := by
  -- At most a last message without a batch goes unheeded.
  rcases Packet.heeded_eq_or present with all | ⟨last, silent, split⟩
  · rw [all]
    exact ran
  · rw [split] at ran
    exact decode_of_append silent ran

/-- Where a batch without a body is the last message or right before another batch, the messages
that take effect do not bring all batches. -/
theorem decode_heeded_ne {assembly : Assembly} {packets : List Packet} {batches : List Batch}
    (loses : Packet.Loses packets) (ran : assembly.decode packets = some batches) :
    assembly.decode (Packet.heeded packets) ≠ some batches := by
  intro kept
  -- Fewer messages with batches take effect than there are, so fewer batches come of them.
  have all := decode_length ran
  have some := decode_length kept
  have fewer := loses.countP_heeded_lt
  omega

end Assembly

end EngineClient.Arrow
