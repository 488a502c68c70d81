import EngineClient.Proofs.Arrow.Cell
import EngineClient.Proofs.Decimal.Widening
import EngineClient.Proofs.Keyed

/-! The cells within a rendered cell, each with the document at its place, and which are null. -/

namespace EngineClient.Arrow

/-- A cell is missing by its own bit, in a column without values, or as a key of a value that is
missing. Of alternatives and of runs only the own bit is counted. -/
inductive Missing : DataType → Slot → Prop
  | own (type : DataType) (value : Value) : Missing type ⟨false, value⟩
  | null (slot : Slot) : Missing .null slot
  | shared {key : IntType} {type : DataType} {slot : Slot} (missing : Missing type slot) :
    Missing (.dictionary key type) ⟨true, .shared slot⟩

/-- A floating-point number of thirty-two or sixty-four bits that is infinite or no number. -/
inductive NotFinite : DataType → Value → Prop
  | single {bits : Nat} (unbounded : ¬(FloatFormat.single.decode bits).IsFinite) :
    NotFinite (.float .single) (.float bits)
  | double {bits : Nat} (unbounded : ¬(FloatFormat.double.decode bits).IsFinite) :
    NotFinite (.float .double) (.float bits)

/-- A cell with the document that it is rendered as. -/
structure Rendered [Platform] where
  /-- The field of the cell. -/
  field : Field
  /-- The cell. -/
  slot : Slot
  /-- The document. -/
  document : Json
  /-- The cell is rendered as the document. -/
  rendered : cellJson field slot = .ok document

/-- The cells of lists and structs within a cell, at every depth, whose documents stand at their
places in the document of the cell. Of members of one name only the last has a place. -/
inductive Within [Platform] : Rendered → Rendered → Prop
  | here (cell : Rendered) : Within cell cell
  | item {outer item inner : Rendered} {large : Bool} {before behind : List Slot}
    {front back : List Json} (type : outer.field.type = .list large item.field)
    (slot : outer.slot = ⟨true, .list (before ++ item.slot :: behind)⟩)
    (document : outer.document = .array (front ++ item.document :: back))
    (place : before.length = front.length) (deeper : Within item inner) : Within outer inner
  | member {outer member inner : Rendered} {fields : List Field} {members : List Slot}
    {entries : Json.Fields} {before behind : List (Field × Slot)}
    (type : outer.field.type = .struct fields) (slot : outer.slot = ⟨true, .struct members⟩)
    (document : outer.document = .object entries)
    (cell : List.zip fields members = before ++ (member.field, member.slot) :: behind)
    (last : ∀ pair ∈ behind, pair.1.name ≠ member.field.name)
    (held : Keyed.get? entries member.field.name = some member.document)
    (deeper : Within member inner) : Within outer inner

/-- A cell is rendered, and another cell has its place in the document. -/
def Shows [Platform] (field : Field) (slot : Slot) (cell : Rendered) : Prop :=
  ∃ outer : Rendered, outer.field = field ∧ outer.slot = slot ∧ Within outer cell

/-- A cell whose own bit says so is missing. -/
theorem Missing.of_valid {type : DataType} {slot : Slot} (hidden : slot.valid = false) :
    Missing type slot := by
  obtain ⟨valid, value⟩ := slot
  cases hidden
  exact .own type value

section

variable {α β : Type} {related : α → β → Prop} {one : α} {before behind : List α} {all : List β}

/-- Lists that have the same names member by member have the same names in order. -/
theorem map_eq_of_forall₂ {γ : Type} {first : α → γ} {second : β → γ} {some : List α}
    (named : List.Forall₂ (fun one other => first one = second other) some all) :
    some.map first = all.map second := by
  rwa [← List.forall₂_eq_eq_eq, List.forall₂_map_left_iff, List.forall₂_map_right_iff]

/-- A name that is none of one list is none of a list with the same names. -/
theorem apart_of_forall₂ {first : α → String} {second : β → String} {name : String} {some : List α}
    (named : List.Forall₂ (fun one other => first one = second other) some all)
    (apart : ∀ one ∈ some, first one ≠ name) : ∀ other ∈ all, second other ≠ name := by
  -- The induction is on the members, which have their names in common.
  induction named with
  | nil => exact List.forall_mem_nil _
  | cons same _ ih =>
    obtain ⟨here, later⟩ := List.forall_mem_cons.mp apart
    exact List.forall_mem_cons.mpr ⟨same ▸ here, ih later⟩

/-- What stands in a list has its partner in a list that is related to it member by member. -/
theorem forall₂_append_cons (pairwise : List.Forall₂ related (before ++ one :: behind) all) :
    ∃ front other back, all = front ++ other :: back ∧ List.Forall₂ related before front ∧
      related one other ∧ List.Forall₂ related behind back := by
  -- The induction is on what stands in front.
  induction before generalizing all with
  | nil =>
    obtain ⟨other, back, same, others, rfl⟩ := List.forall₂_cons_left_iff.mp pairwise
    exact ⟨[], other, back, rfl, .nil, same, others⟩
  | cons first before ih =>
    obtain ⟨other, rest, same, others, rfl⟩ := List.forall₂_cons_left_iff.mp pairwise
    obtain ⟨front, partner, back, rfl, ahead, found, after⟩ := ih others
    exact ⟨other :: front, partner, back, rfl, .cons same ahead, found, after⟩

end

section

variable {field item : Field} {fields : List Field} {slot : Slot} {slots items members : List Slot}
  {value : Value} {text : String} {large : Bool}

/-- Only byte strings and structs have a meaning beyond their type. -/
theorem meaningText?_eq_none {notes : Notes} {type : DataType} (apart : addressOf? type value = none)
    (loose : subnetOf? type value = none) : meaningText? notes type value = none := by
  -- Whatever the meaning is, the value does not have its form.
  unfold meaningText?
  split
  · rw [apart]; rfl
  · rw [loose]; rfl
  · rfl

/-- Numbers have none. -/
theorem NotFinite.plain {notes : Notes} {type : DataType} (unbounded : NotFinite type value) :
    meaningText? notes type value = none := by
  cases unbounded <;> exact meaningText?_eq_none rfl rfl

/-- A struct has a meaning only if it is read as a range of addresses. -/
theorem meaningText?_struct (notes : Notes) (fields : List Field) (members : List Slot) :
    meaningText? notes (.struct fields) (.struct members)
      = if meaning? notes = some .subnet then
          (subnetOf? (.struct fields) (.struct members)).map Subnet.text
        else none := by
  -- A struct is no address, so only the meaning of a range gives it a text.
  unfold meaningText?
  split
  · rename_i known
    rw [known]
    rfl
  · rename_i known
    rw [known, if_pos rfl]
  · rename_i known
    rw [known]
    rfl

/-- A double is null exactly if it is not finite. -/
theorem ofDouble_eq_null_iff (value : Double) : Json.ofDouble value = .null ↔ ¬value.isFinite = true := by
  -- Null stands for what is not finite.
  unfold Json.ofDouble
  split
  · rename_i finite
    exact iff_of_false (nomatch ·) (not_not_intro finite)
  · rename_i unbounded
    exact iff_of_true rfl unbounded

variable [Platform]

/-- A missing cell is null, whatever is stored in it. -/
theorem cellJson_missing (field : Field) (value : Value) : cellJson field ⟨false, value⟩ = .ok .null := by
  obtain ⟨name, type, nullable, source, notes⟩ := field
  simp only [cellJson, Bool.not_false, if_true]

/-- A value with a meaning beyond its type is shown as the text of its meaning. -/
theorem cellJson_told (told : meaningText? field.notes field.type value = some text) :
    cellJson field ⟨true, value⟩ = .ok (.string text) := by
  obtain ⟨name, type, nullable, source, notes⟩ := field
  simp only [cellJson, Bool.not_true, Bool.false_eq_true, if_false, told]

/-- Every other value is shown as its type has it. -/
theorem cellJson_plain (plain : meaningText? field.notes field.type value = none) :
    cellJson field ⟨true, value⟩ = valueJson field.type value := by
  obtain ⟨name, type, nullable, source, notes⟩ := field
  simp only [cellJson, Bool.not_true, Bool.false_eq_true, if_false, plain]

/-- A list is an array of its items. -/
theorem cellJson_list (type : field.type = .list large item) (items : List Slot) :
    cellJson field ⟨true, .list items⟩ = (itemsJson item items).map .array := by
  rw [cellJson_plain (meaningText?_eq_none (by rw [type]; rfl) (by rw [type]; rfl)), type]
  simp only [valueJson]

/-- A struct without further meaning is an object of its members. -/
theorem cellJson_struct (type : field.type = .struct fields)
    (plain : meaningText? field.notes field.type (.struct members) = none) :
    cellJson field ⟨true, .struct members⟩ = (membersJson fields members).map Json.ofPairs := by
  rw [cellJson_plain plain, type]
  simp only [valueJson]

/-- A struct that is shown as an object has no further meaning. -/
theorem plain_of_cellJson_eq_object {entries : Json.Fields}
    (rendered : cellJson field ⟨true, value⟩ = .ok (.object entries)) :
    meaningText? field.notes field.type value = none := by
  -- A meaning gives a text, which is no object.
  cases told : meaningText? field.notes field.type value with
  | none => rfl
  | some text =>
    rw [cellJson_told told] at rendered
    cases rendered

/-- The document of the last member of a name stands under the name. -/
theorem get?_of_last {part : Field} {before behind : List (Field × Slot)}
    {pairs : List (String × Json)} {document : Json}
    (named : List.Forall₂ Names (before ++ (part, slot) :: behind) pairs)
    (last : ∀ pair ∈ behind, pair.1.name ≠ part.name) (rendered : cellJson part slot = .ok document) :
    (Keyed.ofPairs pairs).get? part.name = some document := by
  obtain ⟨front, ⟨name, found⟩, back, rfl, _, ⟨same, found'⟩, after⟩ := forall₂_append_cons named
  cases same
  obtain rfl : found = document := Except.ok.inj (found'.symm.trans rendered)
  -- The pairs behind have the names of the members behind.
  exact Keyed.get?_ofPairs_last found front
    (apart_of_forall₂ (after.imp fun _ _ names => names.1.symm) last)

/-- The last pair of a name comes of the last member of the name. -/
theorem exists_last_member {cells : List (Field × Slot)} {before behind : List (String × Json)}
    {name : String} {document : Json}
    (named : List.Forall₂ Names cells (before ++ (name, document) :: behind))
    (apart : ∀ pair ∈ behind, pair.1 ≠ name) :
    ∃ front part cell back, cells = front ++ (part, cell) :: back ∧ part.name = name ∧
      (∀ pair ∈ back, pair.1.name ≠ part.name) ∧ cellJson part cell = .ok document := by
  obtain ⟨front, ⟨part, cell⟩, back, rfl, _, ⟨same, rendered⟩, after⟩ :=
    forall₂_append_cons named.flip
  cases same
  exact ⟨front, part, cell, back, rfl, rfl,
    apart_of_forall₂ (after.imp fun _ _ names => names.1) apart, rendered⟩

/-- A cell that is rendered is shown by itself. -/
theorem Shows.self {document : Json} (rendered : cellJson field slot = .ok document) :
    Shows field slot ⟨field, slot, document, rendered⟩ :=
  ⟨_, rfl, rfl, .here _⟩

/-- A cell that is shown within an item is shown within the list. -/
theorem Shows.of_item {documents : List Json} {cell : Rendered}
    (type : field.type = .list large item) (rendered : itemsJson item items = .ok documents)
    (member : slot ∈ items) (shown : Shows item slot cell) : Shows field ⟨true, .list items⟩ cell := by
  obtain ⟨inner, rfl, rfl, deeper⟩ := shown
  obtain ⟨before, behind, rfl⟩ := List.append_of_mem member
  obtain ⟨front, document, back, rfl, ahead, found, _⟩ :=
    forall₂_append_cons (itemsJson_eq_ok_iff.mp rendered)
  -- The item was rendered within the list as it is on its own.
  have same : inner.document = document := Except.ok.inj (inner.rendered.symm.trans found)
  have whole : cellJson field ⟨true, .list (before ++ inner.slot :: behind)⟩
      = .ok (.array (front ++ inner.document :: back)) := by
    rw [cellJson_list type, rendered, same]
    rfl
  exact ⟨⟨field, _, _, whole⟩, rfl, rfl, .item type rfl rfl ahead.length_eq deeper⟩

/-- A cell that is shown within the last member of a name is shown within the struct. -/
theorem Shows.of_member {part : Field} {before behind : List (Field × Slot)}
    {pairs : List (String × Json)} {cell : Rendered} (type : field.type = .struct fields)
    (plain : meaningText? field.notes field.type (.struct members) = none)
    (rendered : membersJson fields members = .ok pairs)
    (split : List.zip fields members = before ++ (part, slot) :: behind)
    (last : ∀ pair ∈ behind, pair.1.name ≠ part.name) (shown : Shows part slot cell) :
    Shows field ⟨true, .struct members⟩ cell := by
  obtain ⟨inner, rfl, rfl, deeper⟩ := shown
  have whole := cellJson_struct type plain
  rw [rendered] at whole
  -- The document of the last member of a name is the one that the object holds.
  have held := get?_of_last (split ▸ membersJson_eq_ok_iff.mp rendered) last inner.rendered
  exact ⟨⟨field, _, _, whole⟩, rfl, rfl, .member type rfl rfl split last held deeper⟩

/-- Of all values only numbers that are not finite are shown as null. -/
theorem valueJson_eq_null_iff (type : DataType) (value : Value) :
    valueJson type value = .ok .null ↔ NotFinite type value := by
  -- Lists and structs are documents of their own, and of scalars only floating-point ones are null.
  constructor
  · intro rendered
    unfold valueJson at rendered
    split at rendered
    · obtain ⟨_, _, absurd⟩ := map_eq_ok_iff.mp rendered
      cases absurd
    · obtain ⟨_, _, absurd⟩ := map_eq_ok_iff.mp rendered
      cases absurd
    · revert rendered
      fun_cases scalarJson type value
      all_goals intro rendered
      case case3 =>
        have null := (ofDouble_eq_null_iff _).mp (Except.ok.inj rendered)
        exact .single fun finite => null ((Double.isFinite_ofSingle_iff _).mpr finite)
      case case4 =>
        have null := (ofDouble_eq_null_iff _).mp (Except.ok.inj rendered)
        exact .double fun finite => null ((Double.isFinite_ofNat_iff _).mpr finite)
      all_goals
        -- Every other value is a truth value, a whole number or a text.
        first
        | cases rendered
        | unfold displayed at rendered
          split at rendered <;> cases rendered
  · intro unbounded
    cases unbounded with
    | @single bits unbounded =>
      have null := mt (Double.isFinite_ofSingle_iff bits).mp unbounded
      exact congrArg Except.ok ((ofDouble_eq_null_iff _).mpr null)
    | @double bits unbounded =>
      have null := mt (Double.isFinite_ofNat_iff bits).mp unbounded
      exact congrArg Except.ok ((ofDouble_eq_null_iff _).mpr null)

/-- A cell is shown as null exactly if its own bit says so or it holds a number that is not finite. -/
theorem cellJson_eq_null_iff (field : Field) (slot : Slot) :
    cellJson field slot = .ok .null ↔ slot.valid = false ∨ NotFinite field.type slot.value := by
  obtain ⟨valid, value⟩ := slot
  cases valid with
  | false => exact iff_of_true (cellJson_missing field value) (.inl rfl)
  | true =>
    rw [or_iff_right Bool.noConfusion]
    -- A meaning gives a text, which is not null.
    cases told : meaningText? field.notes field.type value with
    | none =>
      rw [cellJson_plain told]
      exact valueJson_eq_null_iff field.type value
    | some text =>
      rw [cellJson_told told]
      refine iff_of_false (nomatch ·) fun unbounded => ?_
      rw [unbounded.plain] at told
      cases told

end

end EngineClient.Arrow
