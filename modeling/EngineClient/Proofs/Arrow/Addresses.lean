import EngineClient.Proofs.Address.Notation
import EngineClient.Proofs.Arrow.Subnets

/-! Cells that hold addresses or ranges of them are shown as texts that are read back as these. -/

namespace EngineClient.Arrow

/-- A cell that is there holds the sixteen bytes of an address, and its field says so. -/
inductive HoldsAddress : Field → Slot → Address → Prop
  | mk {field : Field} {address : Address} (meaning : meaning? field.notes = some .address)
    (type : field.type = .fixedBinary 16) : HoldsAddress field ⟨true, .bytes address.bytes⟩ address

/-- A cell that is there holds a range, of which neither part is missing, and its field says so. -/
inductive HoldsSubnet : Field → Slot → Subnet → Prop
  | mk {field first second : Field} {fields : List Field} {members : List Slot} {subnet : Subnet}
    (meaning : meaning? field.notes = some .subnet) (type : field.type = .struct fields)
    (address : cellNamed? "address" fields members
      = some (first, ⟨true, .bytes subnet.address.bytes⟩))
    (sixteen : first.type = .fixedBinary 16)
    (length : cellNamed? "length" fields members = some (second, ⟨true, .int subnet.length.toNat⟩))
    (byte : second.type = .int ⟨false, .one⟩) : HoldsSubnet field ⟨true, .struct members⟩ subnet

section

variable [Platform]

variable {field : Field} {slot : Slot}

/-- An address is shown in the notation for its kind. -/
theorem HoldsAddress.cellJson_eq {address : Address} (holds : HoldsAddress field slot address) :
    cellJson field slot = .ok (.string address.text) := by
  obtain ⟨meaning, type⟩ := holds
  have read : addressOf? field.type (.bytes address.bytes) = some address :=
    addressOf?_eq_some_iff.mpr ⟨type, rfl⟩
  -- The field means an address, so that is how its bytes are shown.
  apply cellJson_told
  rw [meaningText?, meaning]
  exact congrArg (Option.map Address.text) read

/-- A range is shown with its address and its length. -/
theorem HoldsSubnet.cellJson_eq {subnet : Subnet} (holds : HoldsSubnet field slot subnet) :
    cellJson field slot = .ok (.string subnet.text) := by
  obtain ⟨meaning, type, address, sixteen, length, byte⟩ := holds
  -- Both members are there and of their types, so the range can be read.
  have read := subnetOf?_eq_some_iff.mpr ⟨_, _, address, length,
    addressOf?_eq_some_iff.mpr ⟨sixteen, rfl⟩,
    lengthOf?_eq_some_iff.mpr ⟨byte, _, rfl, UInt8.ofNat_toNat⟩⟩
  apply cellJson_told
  rw [type, meaningText?_struct, if_pos meaning, read]
  rfl

end

/-- Addresses and ranges of them are shown as texts that are read back as these, so that two cells
are shown alike exactly if they hold the same. A range whose bits begin with the lead of the
addresses of four bytes is shown as one of these, with the bits that it has beyond the lead, and
every other range with all its bits. -/
theorem addresses_told [Platform] :
    (∀ field slot address, HoldsAddress field slot address →
      ∃ text, cellJson field slot = .ok (.string text) ∧ Address.read? text.toList = some address) ∧
    (∀ field slot address field' slot' address', HoldsAddress field slot address →
      HoldsAddress field' slot' address' →
        (cellJson field slot = cellJson field' slot' ↔ address = address')) ∧
    (∀ field slot subnet, HoldsSubnet field slot subnet →
      ∃ text, cellJson field slot = .ok (.string text) ∧ Subnet.read? text.toList = some subnet) ∧
    (∀ field slot subnet field' slot' subnet', HoldsSubnet field slot subnet →
      HoldsSubnet field' slot' subnet' →
        (cellJson field slot = cellJson field' slot' ↔ subnet = subnet')) ∧
    ∀ field slot subnet, HoldsSubnet field slot subnet →
      (∃ four number, subnet.address.mapped? = some four ∧ number + 96 = subnet.length.toNat ∧
        cellJson field slot = .ok (.string (Address.dotted four ++ "/" ++ toString number))) ∨
      (subnet.address.mapped? = none ∨ subnet.length.toNat < 96) ∧
        cellJson field slot
          = .ok (.string (subnet.address.longText ++ "/" ++ toString subnet.length.toNat)) := by
  -- Both kinds of texts are read back and hence differ; then the form of a range is by cases.
  refine ⟨?_, ?_, ?_, ?_, ?_⟩
  · intro field slot address holds
    exact ⟨address.text, holds.cellJson_eq, address.read?_text⟩
  · intro field slot address field' slot' address' holds holds'
    rw [holds.cellJson_eq, holds'.cellJson_eq, Except.ok.injEq, Json.string.injEq, Address.text_inj]
  · intro field slot subnet holds
    exact ⟨subnet.text, holds.cellJson_eq, subnet.read?_text⟩
  · intro field slot subnet field' slot' subnet' holds holds'
    rw [holds.cellJson_eq, holds'.cellJson_eq, Except.ok.injEq, Json.string.injEq, Subnet.text_inj]
  · intro field slot subnet holds
    rw [holds.cellJson_eq]
    -- The number of bits is lowered only where it is 96 at least.
    cases mapped : subnet.address.mapped? with
    | none => exact .inr ⟨.inl rfl, by rw [Subnet.text_long (.inl mapped)]⟩
    | some four =>
      rcases Nat.lt_or_ge subnet.length.toNat 96 with short | long
      · exact .inr ⟨.inr short, by rw [Subnet.text_long (.inr short)]⟩
      · obtain ⟨number, counted, same⟩ := Subnet.text_short mapped long
        exact .inl ⟨four, number.toNat, rfl, counted, by rw [same]⟩

open scoped Platform in
/-- The loopback address is shown apart from the one without any bit, and the range of it alone apart
from the range of all addresses. -/
theorem addresses_told_loopback :
    let addresses : Field := ⟨"address", .fixedBinary 16, true, none, [(extensionKey, "tenzir.ip")]⟩
    let ranges : Field := ⟨"range", .struct [⟨"address", .fixedBinary 16, true, none, []⟩,
      ⟨"length", .int ⟨false, .one⟩, true, none, []⟩], true, none, [(extensionKey, "tenzir.subnet")]⟩
    let cell (address : Address) : Slot := ⟨true, .bytes address.bytes⟩
    let range (length : UInt8) : Slot :=
      ⟨true, .struct [cell .loopback, ⟨true, .int length.toNat⟩]⟩
    HoldsAddress addresses (cell .loopback) .loopback ∧ HoldsSubnet ranges (range 128) ⟨.loopback, 128⟩ ∧
      cellJson addresses (cell .loopback) ≠ cellJson addresses (cell .unspecified) ∧
      cellJson ranges (range 128) ≠ cellJson ranges (range 0) := by
  intro addresses ranges cell range
  have holds (address : Address) : HoldsAddress addresses (cell address) address := .mk rfl rfl
  have holdsRange (length : UInt8) : HoldsSubnet ranges (range length) ⟨.loopback, length⟩ :=
    .mk rfl rfl rfl rfl rfl rfl
  -- Two addresses are shown apart, and so are two ranges of one address.
  obtain ⟨_, apart, _, apartRange, _⟩ := addresses_told
  refine ⟨holds .loopback, holdsRange 128, ?_, ?_⟩
  · intro same
    exact absurd ((apart _ _ _ _ _ _ (holds _) (holds _)).mp same) (by decide)
  · intro same
    exact absurd ((apartRange _ _ _ _ _ _ (holdsRange 128) (holdsRange 0)).mp same) (by decide)

end EngineClient.Arrow
