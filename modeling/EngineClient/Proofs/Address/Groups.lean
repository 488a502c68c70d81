import EngineClient.Address
import Mathlib.Data.List.Basic
import Mathlib.Data.List.TakeWhile

/-! The groups of an address make up its bytes again, also behind a run of zeros that was left out. -/

namespace EngineClient.Address

/-- The bytes of groups, the high half of each first. -/
def ofGroups (groups : List Nat) : Bytes :=
  groups.flatMap fun group => [UInt8.ofNat (group / 256), UInt8.ofNat (group % 256)]

/-- An even number of bytes has half as many groups. -/
theorem length_groups (bytes : Bytes) : (groups bytes).length = bytes.length / 2 := by
  -- The induction takes two bytes at a time.
  induction bytes using groups.induct with
  | case1 high low rest ih =>
    rw [groups, List.length_cons, ih, List.length_cons, List.length_cons]
    omega
  | case2 bytes short =>
    rcases bytes with _ | ⟨byte, _ | ⟨other, rest⟩⟩
    · rfl
    · simp [groups]
    · exact (short _ _ _ rfl).elim

/-- A group is a number of sixteen bits. -/
theorem groups_lt (bytes : Bytes) : ∀ group ∈ groups bytes, group < 65536 := by
  induction bytes using groups.induct with
  | case1 high low rest ih =>
    -- Two bytes make a number of sixteen bits.
    have first := high.toNat_lt
    have second := low.toNat_lt
    rw [groups]
    exact List.forall_mem_cons.mpr ⟨by omega, ih⟩
  | case2 bytes short =>
    rw [groups]
    · exact List.forall_mem_nil _
    · exact short

/-- An even number of bytes is made of its groups. -/
theorem ofGroups_groups {bytes : Bytes} (even : bytes.length % 2 = 0) :
    ofGroups (groups bytes) = bytes := by
  induction bytes using groups.induct with
  | case1 high low rest ih =>
    have others : rest.length % 2 = 0 := by
      rw [List.length_cons, List.length_cons] at even
      omega
    -- The halves of a group are the bytes of which it was made.
    have below := low.toNat_lt
    have first : (high.toNat * 256 + low.toNat) / 256 = high.toNat := by omega
    have second : (high.toNat * 256 + low.toNat) % 256 = low.toNat := by omega
    rw [groups, ofGroups, List.flatMap_cons, ← ofGroups, ih others, first, second,
      UInt8.ofNat_toNat, UInt8.ofNat_toNat]
    rfl
  | case2 bytes short =>
    rcases bytes with _ | ⟨byte, _ | ⟨other, rest⟩⟩
    · rfl
    · cases even
    · exact (short _ _ _ rfl).elim

/-- Four bytes stand in two groups behind the six groups of the lead. -/
theorem ofGroups_mapped {four : Bytes} (size : four.length = 4) :
    ofGroups (List.replicate 5 0 ++ 65535 :: groups four) = mappedLead ++ four := by
  have even : four.length % 2 = 0 := by rw [size]
  have lead : ofGroups (List.replicate 5 0 ++ [65535]) = mappedLead := by decide
  rw [← List.singleton_append, ← List.append_assoc, ofGroups, List.flatMap_append, ← ofGroups,
    ← ofGroups, lead, ofGroups_groups even]

/-- The longest run of zeros consists of zeros, between what stands before it and behind it. -/
theorem longestZeros_filled (groups : List Nat) :
    groups.take (longestZeros groups).1 ++ List.replicate (longestZeros groups).2 0
      ++ groups.drop ((longestZeros groups).1 + (longestZeros groups).2) = groups := by
  -- The induction is on the groups; the run begins with the first of them or behind it.
  induction groups with
  | nil => rfl
  | cons group rest ih =>
    rw [longestZeros]
    dsimp only
    split
    · -- The run stands in front, and is what was taken as long as there were zeros.
      have zeros : List.replicate ((group :: rest).takeWhile (· = 0)).length 0
          = (group :: rest).takeWhile (· = 0) := by
        symm
        apply List.eq_replicate_of_mem
        intro other member
        simpa using List.mem_takeWhile_imp member
      have front : (group :: rest).takeWhile (· = 0)
          = (group :: rest).take ((group :: rest).takeWhile (· = 0)).length :=
        List.prefix_iff_eq_take.mp (List.takeWhile_prefix _)
      rw [zeros, List.take_zero, List.nil_append, Nat.zero_add]
      nth_rewrite 1 [front]
      exact List.take_append_drop _ _
    · -- The run stands in the rest.
      rw [List.take_succ_cons, Nat.add_right_comm, List.drop_succ_cons, List.cons_append,
        List.cons_append, ih]

/-- An address stands for one of four bytes exactly if these stand behind the lead. -/
theorem mapped?_eq_some_iff {address : Address} {four : Bytes} :
    address.mapped? = some four ↔ address.bytes = mappedLead ++ four := by
  have size : mappedLead.length = 12 := rfl
  -- The lead is twelve bytes, and the four are what follows them.
  unfold mapped?
  constructor
  · intro mapped
    rw [Option.ite_none_right_eq_some] at mapped
    obtain ⟨lead, behind⟩ := mapped
    rw [← lead, ← Option.some.inj behind, List.take_append_drop]
  · intro whole
    rw [whole, if_pos (List.take_left' size), List.drop_left' size]

end EngineClient.Address
