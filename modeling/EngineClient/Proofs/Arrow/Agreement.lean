import EngineClient.Proofs.Arrow.Subnets

/-! Cells that differ in what is stored for missing ones are rendered alike, if they are quiet. -/

namespace EngineClient.Arrow

/-- No cell is shown as a range although a part of it is missing. -/
def Quiet [Platform] (field : Field) (slot : Slot) : Prop :=
  ∀ cell, Shows field slot cell → ¬Peeks cell

/-- Results that are both values, or the same failure. -/
inductive SameEnd {ε α : Type} : Except ε α → Except ε α → Prop
  | ok (value other : α) : SameEnd (.ok value) (.ok other)
  | error (failure : ε) : SameEnd (.error failure) (.error failure)

/-- Two cells are rendered or not in the same way, and as the same document if the first is quiet. -/
structure Agree [Platform] (field : Field) (slot other : Slot) : Prop where
  /-- Both have a document, or neither for the same reason. -/
  ends : SameEnd (cellJson field slot) (cellJson field other)
  /-- The documents are the same. -/
  same : Quiet field slot → cellJson field other = cellJson field slot

/-- All alike cells of a field are rendered so. -/
def Agrees [Platform] (field : Field) : Prop :=
  ∀ slot other, AlikeSlot slot other → Agree field slot other

/-- A stored value that holds cells, but is of another type than lists or structs. -/
inductive Closed : DataType → Value → Prop
  | list {type : DataType} (items : List Slot) (apart : ∀ large item, type ≠ .list large item) :
    Closed type (.list items)
  | struct {type : DataType} (members : List Slot) (apart : ∀ fields, type ≠ .struct fields) :
    Closed type (.struct members)
  | choice (type : DataType) (member : Nat) (slot : Slot) : Closed type (.choice member slot)
  | shared (type : DataType) (slot : Slot) : Closed type (.shared slot)

namespace SameEnd

variable {ε α β : Type} {one other : Except ε α}

/-- A result ends as itself. -/
theorem refl (result : Except ε α) : SameEnd result result := by
  cases result with
  | ok value => exact .ok value value
  | error failure => exact .error failure

/-- A failure is the same on both sides. -/
theorem eq_error {failure : ε} (ends : SameEnd (.error failure) other) : other = .error failure := by
  cases ends
  rfl

/-- A value has a value on the other side. -/
theorem exists_eq_ok {value : α} (ends : SameEnd (.ok value) other) : ∃ value', other = .ok value' := by
  cases ends with
  | ok _ value' => exact ⟨value', rfl⟩

/-- Changing values changes no end. -/
theorem map (ends : SameEnd one other) (change : α → β) :
    SameEnd (one.map change) (other.map change) := by
  cases ends with
  | ok value other => exact .ok _ _
  | error failure => exact .error failure

/-- One result after another ends as the same in another place does. -/
theorem bind (ends : SameEnd one other) {next next' : α → Except ε β}
    (behind : ∀ value value', SameEnd (next value) (next' value')) :
    SameEnd (one >>= next) (other >>= next') := by
  cases ends with
  | ok value other => exact behind value other
  | error failure => exact .error failure

end SameEnd

section

variable {field item : Field} {fields : List Field} {items members others : List Slot}
  {slot other : Slot} {type : DataType} {value : Value} {large : Bool}

/-- A value of which no cells are shown one by one has no meaning beyond its type. -/
theorem Closed.plain (closed : Closed type value) (notes : Notes) :
    meaningText? notes type value = none := by
  apply meaningText?_eq_none
  · -- An address is stored as bytes, and a range as the members of a struct.
    rw [Option.eq_none_iff_forall_ne_some]
    intro address read
    obtain ⟨_, rfl⟩ := addressOf?_eq_some_iff.mp read
    cases closed
  · unfold subnetOf?
    split
    · cases closed with
      | struct _ apart => exact absurd rfl (apart _)
    · rfl

/-- Alike members stand under the same fields. -/
theorem zip_alike (fields : List Field) (alike : List.Forall₂ AlikeSlot members others) :
    List.Forall₂ (fun one other => one.1 = other.1 ∧ AlikeSlot one.2 other.2)
      (List.zip fields members) (List.zip fields others) := by
  -- The induction is on the members.
  induction alike generalizing fields with
  | nil => simp only [List.zip_nil_right, List.forall₂_nil_left_iff]
  | cons one more ih => cases fields with
    | nil => exact .nil
    | cons field fields => exact .cons ⟨rfl, one⟩ (ih fields)

variable [Platform]

/-- It is shown as plain text. -/
theorem Closed.valueJson_eq (closed : Closed type value) :
    valueJson type value = displayed type value := by
  -- Lists and structs alone are shown by their parts, and scalars hold no cells.
  unfold valueJson
  split
  · cases closed with
    | list _ apart => exact absurd rfl (apart _ _)
  · cases closed with
    | struct _ apart => exact absurd rfl (apart _)
  · fun_cases scalarJson type value <;> first | rfl | cases closed

/-- So is a cell that holds it. -/
theorem cellJson_closed (closed : Closed field.type value) :
    cellJson field ⟨true, value⟩ = displayed field.type value := by
  rw [cellJson_plain (closed.plain field.notes), closed.valueJson_eq]

/-- Alike values are rendered alike as plain text. -/
theorem displayed_alike {other : Value} (alike : AlikeValue true value other) :
    displayed type value = displayed type other := by
  unfold displayed
  rw [display_alike type value alike]

/-- So are values of which no cells are shown one by one. -/
theorem agree_of_closed {other : Value} (closed : Closed field.type value)
    (closed' : Closed field.type other) (alike : AlikeValue true value other) :
    Agree field ⟨true, value⟩ ⟨true, other⟩ := by
  have same : cellJson field ⟨true, other⟩ = cellJson field ⟨true, value⟩ := by
    rw [cellJson_closed closed, cellJson_closed closed', displayed_alike alike]
  exact ⟨same ▸ SameEnd.refl _, fun _ => same⟩

/-- A cell is rendered as it is. -/
theorem Agree.refl (field : Field) (slot : Slot) : Agree field slot slot :=
  ⟨SameEnd.refl _, fun _ => rfl⟩

/-- Lists of alike items are rendered or not in the same way. -/
theorem itemsJson_ends (agrees : Agrees item) (alike : List.Forall₂ AlikeSlot items others) :
    SameEnd (itemsJson item items) (itemsJson item others) := by
  -- The induction is on the items; the first one that fails does so in both lists.
  induction alike with
  | nil => exact SameEnd.refl _
  | cons one more ih =>
    simp only [itemsJson]
    exact (agrees _ _ one).ends.bind fun _ _ => ih.bind fun _ _ => .ok _ _

/-- They are rendered as the same if all items are quiet. -/
theorem itemsJson_same (agrees : Agrees item) (alike : List.Forall₂ AlikeSlot items others)
    (quiet : ∀ slot ∈ items, Quiet item slot) : itemsJson item others = itemsJson item items := by
  -- The induction is on the items.
  induction alike with
  | nil => rfl
  | cons one more ih =>
    obtain ⟨first, rest⟩ := List.forall_mem_cons.mp quiet
    simp only [itemsJson]
    rw [(agrees _ _ one).same first, ih rest]

/-- So alike lists agree. -/
theorem agree_list (type : field.type = .list large item) (agrees : Agrees item)
    (alike : List.Forall₂ AlikeSlot items others) :
    Agree field ⟨true, .list items⟩ ⟨true, .list others⟩ := by
  have ends := itemsJson_ends agrees alike
  constructor
  · rw [cellJson_list type, cellJson_list type]
    exact ends.map _
  · intro quiet
    rw [cellJson_list type, cellJson_list type]
    -- The items fail alike, or else each of them is shown within the list and thus quiet.
    cases rendered : itemsJson item items with
    | error failure =>
      rw [rendered] at ends
      rw [ends.eq_error]
    | ok documents =>
      rw [itemsJson_same agrees alike fun slot member cell shown =>
        quiet cell (Shows.of_item type rendered member shown), rendered]

/-- Alike members are rendered or not in the same way. -/
theorem membersJson_ends (agrees : ∀ field ∈ fields, Agrees field)
    (alike : List.Forall₂ AlikeSlot members others) :
    SameEnd (membersJson fields members) (membersJson fields others) := by
  -- The induction is on the members, as long as there are fields for them.
  induction alike generalizing fields with
  | nil => cases fields <;> exact SameEnd.refl _
  | cons one more ih => cases fields with
    | nil => exact SameEnd.refl _
    | cons field fields =>
      obtain ⟨first, rest⟩ := List.forall_mem_cons.mp agrees
      simp only [membersJson]
      exact (first _ _ one).ends.bind fun _ _ => (ih rest).bind fun _ _ => .ok _ _

/-- They make the same object if the last member of each name is quiet. -/
theorem membersJson_same {pairs pairs' : List (String × Json)}
    (agrees : ∀ field ∈ fields, Agrees field) (alike : List.Forall₂ AlikeSlot members others)
    (rendered : membersJson fields members = .ok pairs)
    (rendered' : membersJson fields others = .ok pairs')
    (quiet : ∀ before part cell behind, List.zip fields members = before ++ (part, cell) :: behind →
      (∀ pair ∈ behind, pair.1.name ≠ part.name) → Quiet part cell) :
    Keyed.ofPairs pairs = Keyed.ofPairs pairs' := by
  have cells := zip_alike fields alike
  rw [membersJson_eq_ok_iff] at rendered rendered'
  -- The names come in one order on both sides, and each holds what its last member is.
  apply Keyed.ofPairs_congr
  · calc pairs.map Prod.fst
        = (List.zip fields members).map fun cell => cell.1.name :=
          (map_eq_of_forall₂ (rendered.imp fun _ _ names => names.1.symm)).symm
      _ = (List.zip fields others).map fun cell => cell.1.name :=
          map_eq_of_forall₂ (cells.imp fun _ _ same => congrArg FieldOf.name same.1)
      _ = pairs'.map Prod.fst :=
          map_eq_of_forall₂ (rendered'.imp fun _ _ names => names.1.symm)
  · intro before name value behind split apart
    subst split
    obtain ⟨front, part, cell, back, split, rfl, last, found⟩ := exists_last_member rendered apart
    have among : part ∈ fields :=
      (List.of_mem_zip (split ▸ List.mem_append_right _ List.mem_cons_self)).1
    -- The last member of the name on the other side is alike, and rendered as the same.
    rw [split] at cells
    obtain ⟨_, ⟨_, cell'⟩, back', split', _, ⟨same, one⟩, after⟩ := forall₂_append_cons cells
    cases same
    have last' := apart_of_forall₂ (after.imp fun _ _ same => congrArg FieldOf.name same.1) last
    have agree := (agrees part among cell cell' one).same (quiet front part cell back split last)
    exact get?_of_last (split' ▸ rendered') last' (agree.trans found)

/-- So alike structs agree if they have no meaning beyond their type. -/
theorem agree_struct_plain (type : field.type = .struct fields)
    (agrees : ∀ field ∈ fields, Agrees field) (alike : List.Forall₂ AlikeSlot members others)
    (plain : meaningText? field.notes field.type (.struct members) = none) :
    Agree field ⟨true, .struct members⟩ ⟨true, .struct others⟩ := by
  -- Alike members are no range of addresses on the other side, either.
  have plain' : meaningText? field.notes field.type (.struct others) = none := by
    rw [type] at plain ⊢
    exact meaningText?_struct_alike alike plain
  have ends := membersJson_ends agrees alike
  constructor
  · rw [cellJson_struct type plain, cellJson_struct type plain']
    exact ends.map _
  · intro quiet
    rw [cellJson_struct type plain, cellJson_struct type plain']
    cases rendered : membersJson fields members with
    | error failure =>
      rw [rendered] at ends
      rw [ends.eq_error]
    | ok pairs =>
      rw [rendered] at ends
      obtain ⟨pairs', rendered'⟩ := ends.exists_eq_ok
      -- A member that is shown is the last one of its name, and quiet as part of the struct.
      have same := membersJson_same agrees alike rendered rendered'
        fun before part cell behind split last inner shown =>
          quiet inner (Shows.of_member type plain rendered split last shown)
      rw [rendered']
      simp only [Except.map, Json.ofPairs, same]

/-- Where a cell is read as a range and quiet, no part of the range is missing. -/
theorem valid_of_quiet {subnet : Subnet} (quiet : Quiet field ⟨true, .struct members⟩)
    (meaning : meaning? field.notes = some .subnet) (type : field.type = .struct fields)
    (read : subnetOf? field.type (.struct members) = some subnet)
    (rendered : cellJson field ⟨true, .struct members⟩ = .ok (.string subnet.text))
    {name : String} {part : Field} {cell : Slot} (named : name = "address" ∨ name = "length")
    (found : cellNamed? name fields members = some (part, cell)) : cell.valid = true := by
  -- A missing part would be passed off as one that is there.
  by_contra missing
  refine quiet _ (Shows.self rendered) ⟨.mk meaning type named found ?_, ?_⟩
  · exact .of_valid (eq_false_of_ne_true missing)
  · exact Option.isSome_iff_exists.mpr ⟨subnet, read⟩

/-- So alike structs agree, also those that are ranges of addresses. -/
theorem agree_struct (type : field.type = .struct fields) (agrees : ∀ field ∈ fields, Agrees field)
    (alike : List.Forall₂ AlikeSlot members others) :
    Agree field ⟨true, .struct members⟩ ⟨true, .struct others⟩ := by
  cases told : meaningText? field.notes field.type (.struct members) with
  | none => exact agree_struct_plain type agrees alike told
  | some text =>
    have shown := cellJson_told told
    rw [type, meaningText?_struct, Option.ite_none_right_eq_some, Option.map_eq_some_iff] at told
    obtain ⟨meaning, subnet, read, rfl⟩ := told
    obtain ⟨subnet', read', same⟩ := subnetOf?_alike alike read
    -- A struct that is read as a range is so on both sides.
    have shown' : cellJson field ⟨true, .struct others⟩ = .ok (.string subnet'.text) := by
      apply cellJson_told
      rw [type, meaningText?_struct, if_pos meaning, read']
      rfl
    constructor
    · rw [shown, shown']
      exact .ok _ _
    · intro quiet
      rw [shown, shown', same]
      -- In a quiet cell no part is missing, so both ranges are of the same address and length.
      intro name part cell named found
      exact valid_of_quiet quiet meaning type (type ▸ read) shown named found

/-- All alike cells of a field agree if those of all fields within it do. -/
theorem agrees_of_inner (list : ∀ large item, field.type = .list large item → Agrees item)
    (struct : ∀ fields, field.type = .struct fields → ∀ field ∈ fields, Agrees field) :
    Agrees field := by
  rintro slot other ⟨alike⟩
  rename_i valid value stored
  cases valid with
  | false =>
    -- Both cells are null.
    have same : cellJson field ⟨false, stored⟩ = cellJson field ⟨false, value⟩ := by
      rw [cellJson_missing, cellJson_missing]
    exact ⟨same ▸ SameEnd.refl _, fun _ => same⟩
  | true => cases alike with
    -- A cell that is there stores the same, or holds cells that are alike.
    | same => exact Agree.refl field _
    | list items =>
      -- Lists of all other types are shown as plain text.
      by_cases listed : ∃ large item, field.type = .list large item
      · obtain ⟨large, item, type⟩ := listed
        exact agree_list type (list large item type) items
      · push Not at listed
        exact agree_of_closed (.list _ listed) (.list _ listed) (.list items)
    | struct members =>
      by_cases sides : ∃ fields, field.type = .struct fields
      · obtain ⟨fields, type⟩ := sides
        exact agree_struct type (struct fields type) members
      · push Not at sides
        exact agree_of_closed (.struct _ sides) (.struct _ sides) (.struct members)
    | choice member alike =>
      exact agree_of_closed (.choice ..) (.choice ..) (.choice member alike)
    | shared alike => exact agree_of_closed (.shared ..) (.shared ..) (.shared alike)

end

-- The induction is on the types, and on the fields within them.
mutual

/-- Alike cells agree, whatever their type. -/
theorem agrees [Platform] (field : FieldOf DataType) : Agrees field := by
  obtain ⟨name, type, nullable, source, notes⟩ := field
  -- Only lists and structs have fields within them.
  cases type
  case list large item =>
    refine agrees_of_inner (fun _ _ same => ?_) fun _ same => by cases same
    cases same
    exact agrees item
  case struct fields =>
    refine agrees_of_inner (fun _ _ same => by cases same) fun _ same => ?_
    cases same
    exact agrees_all fields
  all_goals exact agrees_of_inner (fun _ _ same => by cases same) fun _ same => by cases same

/-- So do those of several fields. -/
theorem agrees_all [Platform] (fields : List (FieldOf DataType)) :
    ∀ field ∈ fields, Agrees field := by
  cases fields with
  | nil => exact List.forall_mem_nil _
  | cons field fields => exact List.forall_mem_cons.mpr ⟨agrees field, agrees_all fields⟩

end

end EngineClient.Arrow
