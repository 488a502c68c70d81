import EngineClient.Proofs.Address.Notation
import EngineClient.Proofs.Arrow.Alike
import EngineClient.Proofs.Arrow.Within

/-! Ranges of addresses in structs: which cells they are read of, and what if one of them is missing. -/

namespace EngineClient

/-- The address of which every bit is zero. -/
def Address.unspecified : Address :=
  ⟨List.replicate 16 0, rfl⟩

/-- The address of which only the last bit is one. -/
def Address.loopback : Address :=
  ⟨List.replicate 15 0 ++ [1], rfl⟩

/-- Ranges of the two addresses have different texts, of whatever length they are. -/
theorem Subnet.text_unspecified_ne_loopback (length : UInt8) :
    Subnet.text ⟨.unspecified, length⟩ ≠ Subnet.text ⟨.loopback, length⟩ := by
  have apart : Address.unspecified.longText ≠ Address.loopback.longText := by decide +kernel
  rw [text_long (.inl rfl), text_long (.inl rfl), Ne, String.append_left_inj, String.append_left_inj]
  exact apart

/-- So have ranges of all addresses and of half of them. -/
theorem Subnet.text_zero_ne_one (address : Address) :
    Subnet.text ⟨address, 0⟩ ≠ Subnet.text ⟨address, 1⟩ := by
  have short : (0 : UInt8).toNat < 96 ∧ (1 : UInt8).toNat < 96 := by decide
  have apart : toString (0 : UInt8).toNat ≠ toString (1 : UInt8).toNat := by decide
  rw [text_long (.inr short.1), text_long (.inr short.2), Ne, String.append_right_inj]
  exact apart

namespace Arrow

/-- The first cell under a name, with its field. -/
def cellNamed? (name : String) (fields : List Field) (members : List Slot) : Option (Field × Slot) :=
  (List.zip fields members).find? fun pair => pair.1.name = name

/-- A part of a range. -/
inductive RangePart where
  | address
  | length
deriving DecidableEq

/-- The name under which a part is stored. -/
def RangePart.name : RangePart → String
  | .address => "address"
  | .length => "length"

/-- The parts have different names. -/
theorem RangePart.name_ne {one other : RangePart} (apart : one ≠ other) : one.name ≠ other.name := by
  cases one <;> cases other <;> first | exact absurd rfl apart | decide

/-- A range in a struct that is there, of which the address or the length is missing. -/
inductive LacksPart : Field → Slot → Prop
  | mk {field part : Field} {fields : List Field} {members : List Slot} {name : String} {cell : Slot}
    (meaning : meaning? field.notes = some .subnet) (type : field.type = .struct fields)
    (named : name = "address" ∨ name = "length") (found : cellNamed? name fields members = some (part, cell))
    (missing : Missing part.type cell) : LacksPart field ⟨true, .struct members⟩

/-- A cell is shown as a range although a part of the range is missing. -/
def Peeks [Platform] (cell : Rendered) : Prop :=
  LacksPart cell.field cell.slot ∧ (subnetOf? cell.field.type cell.slot.value).isSome

section

variable {name : String} {field part : Field} {fields : List Field} {members others : List Slot}
  {cell other : Slot} {type : DataType} {value : Value} {subnet : Subnet}

/-- The first cell is the one under its name, and any other name is looked for behind it. -/
theorem cellNamed?_cons (name : String) (field : Field) (fields : List Field) (cell : Slot)
    (members : List Slot) :
    cellNamed? name (field :: fields) (cell :: members)
      = if field.name = name then some (field, cell) else cellNamed? name fields members := by
  rw [cellNamed?, List.zip_cons_cons, List.find?_cons]
  by_cases same : field.name = name <;> simp [same, cellNamed?]

/-- Alike members have alike cells under each name. -/
theorem cellNamed?_alike (alike : List.Forall₂ AlikeSlot members others)
    (found : cellNamed? name fields members = some (part, cell)) :
    ∃ other, cellNamed? name fields others = some (part, other) ∧ AlikeSlot cell other := by
  -- The induction is on the members, and the field of the name stands at the same place.
  induction alike generalizing fields with
  | nil => cases fields <;> cases found
  | @cons member member' members others one more ih => cases fields with
    | nil => cases found
    | cons field fields =>
      rw [cellNamed?_cons] at found ⊢
      split at found
      · cases found
        rename_i same
        exact ⟨member', if_pos same, one⟩
      · rename_i different
        rw [if_neg different]
        exact ih found

/-- What is stored in a cell of a name may become anything else that is alike. -/
theorem exists_replaced {valid : Bool} {hidden : Value}
    (found : cellNamed? name fields members = some (part, ⟨valid, hidden⟩))
    (alike : AlikeValue valid hidden value) :
    ∃ others, List.Forall₂ AlikeSlot members others ∧
      cellNamed? name fields others = some (part, ⟨valid, value⟩) ∧
      ∀ apart, apart ≠ name → cellNamed? apart fields others = cellNamed? apart fields members := by
  -- The induction is on the fields, down to the first one of the name.
  induction fields generalizing members with
  | nil => cases found
  | cons field fields ih => cases members with
    | nil => cases found
    | cons member members =>
      rw [cellNamed?_cons] at found
      split at found
      · -- The first cell is the one that changes, and no other name is its own.
        rename_i same
        cases found
        refine ⟨⟨valid, value⟩ :: members, .cons (.mk alike) (alikeSlots_refl members), ?_, ?_⟩
        · rw [cellNamed?_cons, if_pos same]
        · intro apart different
          rw [cellNamed?_cons, cellNamed?_cons, if_neg fun named => different (named.symm.trans same),
            if_neg fun named => different (named.symm.trans same)]
      · -- The first cell stays as it is.
        rename_i different
        obtain ⟨others, alike, replaced, kept⟩ := ih found
        refine ⟨member :: others, .cons (AlikeSlot.refl member) alike, ?_, fun apart other => ?_⟩
        · rw [cellNamed?_cons, if_neg different, replaced]
        · rw [cellNamed?_cons, cellNamed?_cons, kept apart other]

/-- An address is sixteen bytes of that type. -/
theorem addressOf?_eq_some_iff {address : Address} :
    addressOf? type value = some address ↔
      type = .fixedBinary 16 ∧ value = .bytes address.bytes := by
  constructor
  · intro read
    unfold addressOf? at read
    split at read
    · simp only [Address.ofBytes?, Option.dite_none_right_eq_some, Option.some.injEq] at read
      obtain ⟨size, rfl⟩ := read
      exact ⟨rfl, rfl⟩
    · cases read
  · -- The bytes of an address are sixteen.
    rintro ⟨rfl, rfl⟩
    exact dif_pos address.size

/-- A length is a whole number of one byte. -/
theorem lengthOf?_eq_some_iff {length : UInt8} :
    lengthOf? (type, value) = some length ↔ type = .int ⟨false, .one⟩ ∧
      ∃ number : Int, value = .int number ∧ UInt8.ofNat number.toNat = length := by
  constructor
  · intro read
    -- Only a number stored under a type of one unsigned byte is a length.
    unfold lengthOf? at read
    split at read
    · rename_i same
      cases same
      exact ⟨rfl, _, rfl, Option.some.inj read⟩
    · cases read
  · rintro ⟨rfl, number, rfl, rfl⟩
    rfl

/-- A range is read of the first address and of the first length. -/
theorem subnetOf?_eq_some_iff :
    subnetOf? (.struct fields) (.struct members) = some subnet ↔
      ∃ address length : Field × Slot, cellNamed? "address" fields members = some address ∧
        cellNamed? "length" fields members = some length ∧
        addressOf? address.1.type address.2.value = some subnet.address ∧
        lengthOf? (length.1.type, length.2.value) = some subnet.length := by
  -- A member is found by its name, as the first one that has it.
  have named : ∀ name, memberNamed? name fields members
      = (cellNamed? name fields members).map fun pair => (pair.1.type, pair.2.value) := fun _ => rfl
  simp only [subnetOf?, Option.bind_eq_bind, Option.bind_eq_some_iff, named, Option.map_eq_some_iff]
  constructor
  · rintro ⟨_, ⟨address, first, rfl⟩, _, ⟨cell, second, rfl⟩, length, short, bytes, long, same⟩
    cases same
    exact ⟨address, cell, first, second, long, short⟩
  · rintro ⟨address, cell, first, second, long, short⟩
    exact ⟨_, ⟨address, first, rfl⟩, _, ⟨cell, second, rfl⟩, _, short, _, long, rfl⟩

/-- A cell like one with an address has an address, and the same if it is there. -/
theorem addressOf?_alike {address : Address} (alike : AlikeSlot cell other)
    (read : addressOf? type cell.value = some address) :
    ∃ address', addressOf? type other.value = some address' ∧
      (cell.valid = true → address' = address) := by
  obtain ⟨rfl, stored⟩ := addressOf?_eq_some_iff.mp read
  obtain ⟨valid, value⟩ := cell
  cases stored
  obtain ⟨alike⟩ := alike
  -- A cell that is missing may store other bytes, but as many.
  cases alike with
  | same => exact ⟨address, read, fun _ => rfl⟩
  | hidden form =>
    cases form with
    | bytes size =>
      exact ⟨⟨_, size.symm.trans address.size⟩, addressOf?_eq_some_iff.mpr ⟨rfl, rfl⟩, Bool.noConfusion⟩

/-- So is it with lengths. -/
theorem lengthOf?_alike {length : UInt8} (alike : AlikeSlot cell other)
    (read : lengthOf? (type, cell.value) = some length) :
    ∃ length', lengthOf? (type, other.value) = some length' ∧
      (cell.valid = true → length' = length) := by
  obtain ⟨rfl, number, stored, rfl⟩ := lengthOf?_eq_some_iff.mp read
  obtain ⟨valid, value⟩ := cell
  cases stored
  obtain ⟨alike⟩ := alike
  -- A cell that is missing may store another number.
  cases alike with
  | same => exact ⟨_, read, fun _ => rfl⟩
  | hidden form =>
    cases form with
    | int _ other => exact ⟨_, rfl, Bool.noConfusion⟩

/-- Members like those of a range are those of a range, and of the same if none of its parts is
missing. -/
theorem subnetOf?_alike (alike : List.Forall₂ AlikeSlot members others)
    (read : subnetOf? (.struct fields) (.struct members) = some subnet) :
    ∃ subnet', subnetOf? (.struct fields) (.struct others) = some subnet' ∧
      ((∀ name part cell, name = "address" ∨ name = "length" →
        cellNamed? name fields members = some (part, cell) → cell.valid = true) →
          subnet' = subnet) := by
  obtain ⟨⟨first, one⟩, ⟨second, two⟩, foundAddress, foundLength, address, length⟩ :=
    subnetOf?_eq_some_iff.mp read
  -- Both parts are found on the other side, too, and are the same where they are there.
  obtain ⟨one', foundAddress', alikeAddress⟩ := cellNamed?_alike alike foundAddress
  obtain ⟨two', foundLength', alikeLength⟩ := cellNamed?_alike alike foundLength
  obtain ⟨address', address, sameAddress⟩ := addressOf?_alike alikeAddress address
  obtain ⟨length', length, sameLength⟩ := lengthOf?_alike alikeLength length
  refine ⟨⟨address', length'⟩,
    subnetOf?_eq_some_iff.mpr ⟨_, _, foundAddress', foundLength', address, length⟩, fun whole => ?_⟩
  rw [sameAddress (whole _ _ _ (.inl rfl) foundAddress),
    sameLength (whole _ _ _ (.inr rfl) foundLength)]

/-- So the members of a struct have a meaning exactly if alike members have one. -/
theorem meaningText?_struct_alike {notes : Notes} (alike : List.Forall₂ AlikeSlot members others)
    (plain : meaningText? notes (.struct fields) (.struct members) = none) :
    meaningText? notes (.struct fields) (.struct others) = none := by
  rw [meaningText?_struct] at plain ⊢
  split
  · rename_i meaning
    rw [if_pos meaning, Option.map_eq_none_iff] at plain
    rw [Option.map_eq_none_iff, Option.eq_none_iff_forall_ne_some]
    intro subnet read
    -- A range on the other side would be one on this side.
    obtain ⟨_, read, _⟩ := subnetOf?_alike (alikeSlots_symm _ alike) read
    rw [plain] at read
    cases read
  · rfl

/-- A number that is not finite is missing by its own bit if at all. -/
theorem Missing.valid_of_notFinite (missing : Missing type cell) (unbounded : NotFinite type value) :
    cell.valid = false := by
  cases unbounded <;> cases missing <;> rfl

/-- A range that lacks a part is shown as a range exactly if it is read as one. -/
theorem LacksPart.shown_iff [Platform] {cell : Rendered} (lacks : LacksPart cell.field cell.slot) :
    (∃ subnet : Subnet, cell.document = .string subnet.text) ↔
      (subnetOf? cell.field.type cell.slot.value).isSome := by
  obtain ⟨field, slot, document, rendered⟩ := cell
  obtain @⟨_, fields, members, _, _, meaning, type, _, _, _⟩ := lacks
  dsimp only at meaning type ⊢
  have told := meaningText?_struct field.notes fields members
  rw [if_pos meaning, ← type] at told
  -- The text of a range is shown exactly where one is read.
  cases read : subnetOf? field.type (.struct members) with
  | some subnet =>
    rw [read] at told
    exact iff_of_true ⟨subnet, Except.ok.inj (rendered.symm.trans (cellJson_told told))⟩ rfl
  | none =>
    rw [read] at told
    refine iff_of_false ?_ Bool.false_ne_true
    rintro ⟨subnet, rfl⟩
    -- A struct that is not read as a range is shown as an object.
    rw [cellJson_struct type told] at rendered
    obtain ⟨pairs, _, absurd⟩ := map_eq_ok_iff.mp rendered
    cases absurd

/-- What is stored for a part of a range. -/
inductive HoldsPart (subnet : Subnet) : RangePart → DataType → Value → Prop
  | address : HoldsPart subnet .address (.fixedBinary 16) (.bytes subnet.address.bytes)
  | length {number : Int} (told : UInt8.ofNat number.toNat = subnet.length) :
    HoldsPart subnet .length (.int ⟨false, .one⟩) (.int number)

/-- A range is read exactly if each of its parts is stored in the first cell of its name. -/
theorem subnetOf?_eq_some_iff_parts :
    subnetOf? (.struct fields) (.struct members) = some subnet ↔
      ∀ part : RangePart, ∃ field cell type value,
        cellNamed? part.name fields members = some (field, cell) ∧ field.type = type ∧
        cell.value = value ∧ HoldsPart subnet part type value := by
  -- Each part tells its own type and what is stored for it.
  rw [subnetOf?_eq_some_iff]
  constructor
  · rintro ⟨_, _, address, length, long, short⟩ part
    obtain ⟨type, stored⟩ := addressOf?_eq_some_iff.mp long
    obtain ⟨whole, number, put, told⟩ := lengthOf?_eq_some_iff.mp short
    cases part with
    | address => exact ⟨_, _, _, _, address, type, stored, .address⟩
    | length => exact ⟨_, _, _, _, length, whole, put, .length told⟩
  · intro parts
    obtain ⟨_, _, _, _, address, type, stored, ⟨⟩⟩ := parts .address
    obtain ⟨_, _, _, _, length, whole, put, short⟩ := parts .length
    cases short with
    | length told =>
      exact ⟨_, _, address, length, addressOf?_eq_some_iff.mpr ⟨type, stored⟩,
        lengthOf?_eq_some_iff.mpr ⟨whole, _, put, told⟩⟩

section

variable {part : RangePart}

/-- What is stored for a part of one range has the form of what can be stored for that of another. -/
theorem HoldsPart.exists_form (holds : HoldsPart subnet part type value) (range : Subnet) :
    ∃ value', SameForm value value' ∧ HoldsPart range part type value' := by
  cases holds with
  | address => exact ⟨_, .bytes (subnet.address.size.trans range.address.size.symm), .address⟩
  | length told => exact ⟨.int range.length.toNat, .int _ _, .length UInt8.ofNat_toNat⟩

/-- A part of a range that is missing is missing by its own bit. -/
theorem HoldsPart.valid_eq_false (holds : HoldsPart subnet part type value)
    (missing : Missing type cell) : cell.valid = false := by
  cases holds <;> cases missing <;> rfl

/-- Where a part of a range is missing, that of any other range may be stored for it. -/
theorem exists_with_part {range : Subnet}
    (read : subnetOf? (.struct fields) (.struct members) = some subnet)
    (found : cellNamed? part.name fields members = some (field, cell))
    (missing : Missing field.type cell)
    (same : ∀ other type value, other ≠ part → HoldsPart subnet other type value →
      HoldsPart range other type value) :
    ∃ others, List.Forall₂ AlikeSlot members others ∧
      subnetOf? (.struct fields) (.struct others) = some range := by
  have parts := subnetOf?_eq_some_iff_parts.mp read
  obtain ⟨_, _, _, _, first, rfl, rfl, holds⟩ := parts part
  -- The cell that is missing is the one that the part is read of.
  cases found.symm.trans first
  have hidden := holds.valid_eq_false missing
  obtain ⟨value', form, stored⟩ := holds.exists_form range
  obtain ⟨valid, value⟩ := cell
  cases hidden
  obtain ⟨others, alike, replaced, kept⟩ := exists_replaced found (.hidden form)
  refine ⟨others, alike, subnetOf?_eq_some_iff_parts.mpr fun other => ?_⟩
  by_cases here : other = part
  · subst here
    exact ⟨_, _, _, _, replaced, rfl, rfl, stored⟩
  · -- The other part is read of the same cell as before.
    obtain ⟨_, _, _, _, found, type, value, holds⟩ := parts other
    exact ⟨_, _, _, _, (kept _ (RangePart.name_ne here)).trans found, type, value,
      same _ _ _ here holds⟩

end

/-- A range that lacks a part is shown as one range or as another, by what is stored for the part. -/
theorem Peeks.exists_two [Platform] {cell : Rendered} (peeks : Peeks cell) :
    ∃ one two : Subnet, one.text ≠ two.text ∧ ∀ subnet, subnet = one ∨ subnet = two →
      ∃ other, AlikeSlot cell.slot other ∧ cellJson cell.field other = .ok (.string subnet.text) := by
  obtain ⟨field, slot, document, rendered⟩ := cell
  obtain ⟨@⟨part, fields, members, name, cell, meaning, type, named, found, missing⟩, concrete⟩ :=
    peeks
  dsimp only at meaning type concrete ⊢
  rw [type] at concrete
  obtain ⟨subnet, read⟩ := Option.isSome_iff_exists.mp concrete
  -- Members that are read as a range are shown as one.
  have replaced (lacking : RangePart) (lacks : lacking.name = name) (range : Subnet)
      (same : ∀ part type value, part ≠ lacking → HoldsPart subnet part type value →
        HoldsPart range part type value) :
      ∃ other, AlikeSlot ⟨true, .struct members⟩ other ∧
        cellJson field other = .ok (.string range.text) := by
    obtain ⟨others, alike, read⟩ := exists_with_part read (lacks ▸ found) missing same
    refine ⟨⟨true, .struct others⟩, .mk (.struct alike), cellJson_told ?_⟩
    rw [type, meaningText?_struct, if_pos meaning, read]
    rfl
  -- The part that is missing may be one value or another, and the other part stays.
  rcases named with rfl | rfl
  · refine ⟨_, _, Subnet.text_unspecified_ne_loopback subnet.length, ?_⟩
    rintro _ (rfl | rfl)
    all_goals
      refine replaced .address rfl _ fun part type value other holds => ?_
      cases holds with
      | address => exact absurd rfl other
      | length told => exact .length told
  · refine ⟨_, _, Subnet.text_zero_ne_one subnet.address, ?_⟩
    rintro _ (rfl | rfl)
    all_goals
      refine replaced .length rfl _ fun part type value other holds => ?_
      cases holds with
      | address => exact .address
      | length told => exact absurd rfl other

end

end Arrow

end EngineClient
