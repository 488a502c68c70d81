import EngineClient.Proofs.Arrow.Agreement

/-! Which cells are shown as null, and when what is stored for missing ones shows in a document. -/

namespace EngineClient.Arrow

section

variable {fields : List Field} {members items : List Slot} {slot other : Slot} {part : Field}
  {before behind : List (Field × Slot)}

/-- A member may become any cell like it. -/
theorem exists_exchanged (split : List.zip fields members = before ++ (part, slot) :: behind)
    (alike : AlikeSlot slot other) :
    ∃ others, List.Forall₂ AlikeSlot members others ∧
      List.zip fields others = before ++ (part, other) :: behind := by
  -- The induction is on the members in front of it, which stay as they are.
  induction before generalizing fields members with
  | nil => match fields, members with
    | [], _ => simp at split
    | _ :: _, [] => simp at split
    | field :: fields, member :: members =>
      cases split
      exact ⟨other :: members, .cons alike (alikeSlots_refl members), rfl⟩
  | cons first before ih => match fields, members with
    | [], _ => simp at split
    | _ :: _, [] => simp at split
    | field :: fields, member :: members =>
      -- The first member stays, and the exchange is behind it.
      obtain ⟨rfl, rest⟩ := List.cons.inj split
      obtain ⟨others, alikes, exchanged⟩ := ih rest
      exact ⟨member :: others, .cons (AlikeSlot.refl member) alikes, by
        rw [List.zip_cons_cons, exchanged]; rfl⟩

end

section

variable [Platform]

/-- Of all cells that are shown exactly those are null that are missing or not finite. -/
def TellsMissing (field : Field) (slot : Slot) : Prop :=
  ∀ cell, Shows field slot cell → (cell.document = .null ↔
    Missing cell.field.type cell.slot ∨ NotFinite cell.field.type cell.slot.value)

/-- What is stored for missing cells does not matter: all cells like this one are rendered as it is. -/
def IgnoresHidden (field : Field) (slot : Slot) : Prop :=
  ∀ other, AlikeSlot slot other → cellJson field other = cellJson field slot

/-- No range that lacks its address or its length is shown as a range. -/
def ShowsWholeRanges (field : Field) (slot : Slot) : Prop :=
  ∀ cell, Shows field slot cell → LacksPart cell.field cell.slot →
    ∀ subnet : Subnet, cell.document ≠ .string subnet.text

/-- Some cell like a rendered one is rendered as another document. -/
def Varies (cell : Rendered) : Prop :=
  ∃ other document, AlikeSlot cell.slot other ∧ cellJson cell.field other = .ok document ∧
    document ≠ cell.document

section

variable {fields : List Field} {members items : List Slot} {slot other : Slot} {part : Field}
  {before behind : List (Field × Slot)}

/-- A cell that peeks is rendered as another range where something else is stored. -/
theorem Varies.of_peeks {cell : Rendered} (peeks : Peeks cell) : Varies cell := by
  obtain ⟨one, two, differ, reach⟩ := peeks.exists_two
  -- The document is at most one of the two.
  by_cases same : Json.string one.text = cell.document
  · obtain ⟨other, alike, rendered⟩ := reach two (.inr rfl)
    refine ⟨other, _, alike, rendered, fun absurd => differ ?_⟩
    exact Json.string.inj (same.trans absurd.symm)
  · obtain ⟨other, alike, rendered⟩ := reach one (.inl rfl)
    exact ⟨other, _, alike, rendered, same⟩

/-- A list varies where an item does. -/
theorem Varies.of_item {outer item : Rendered} {large : Bool} {before behind : List Slot}
    {front back : List Json} (type : outer.field.type = .list large item.field)
    (slot : outer.slot = ⟨true, .list (before ++ item.slot :: behind)⟩)
    (document : outer.document = .array (front ++ item.document :: back))
    (place : before.length = front.length) (varies : Varies item) : Varies outer := by
  obtain ⟨other, found, alike, rendered, differ⟩ := varies
  have whole := outer.rendered
  rw [slot, cellJson_list type, document] at whole
  obtain ⟨documents, listed, same⟩ := map_eq_ok_iff.mp whole
  cases same
  -- The documents in front of the item are those of the items in front of it.
  obtain ⟨front', _, back', same, ahead, _, after⟩ :=
    forall₂_append_cons (itemsJson_eq_ok_iff.mp listed)
  obtain ⟨rfl, tail⟩ := List.append_inj same (place.symm.trans ahead.length_eq)
  cases tail
  have made : itemsJson item.field (before ++ other :: behind) = .ok (front ++ found :: back) :=
    itemsJson_eq_ok_iff.mpr (List.rel_append ahead (.cons rendered after))
  -- The list with the other item is alike, is rendered, and shows another document.
  refine ⟨⟨true, .list (before ++ other :: behind)⟩, .array (front ++ found :: back), ?_, ?_, ?_⟩
  · rw [slot]
    exact .mk (.list (List.rel_append (alikeSlots_refl before)
      (.cons alike (alikeSlots_refl behind))))
  · rw [cellJson_list type, made]
    rfl
  · rw [document]
    intro same
    exact differ (List.cons.inj (List.append_cancel_left (Json.array.inj same))).1

/-- A struct varies where the last member of a name does. -/
theorem Varies.of_member {outer member : Rendered} {entries : Json.Fields}
    (type : outer.field.type = .struct fields) (slot : outer.slot = ⟨true, .struct members⟩)
    (document : outer.document = .object entries)
    (split : List.zip fields members = before ++ (member.field, member.slot) :: behind)
    (last : ∀ pair ∈ behind, pair.1.name ≠ member.field.name)
    (held : Keyed.get? entries member.field.name = some member.document)
    (varies : Varies member) : Varies outer := by
  obtain ⟨other, found, alike, rendered, differ⟩ := varies
  obtain ⟨others, alikes, exchanged⟩ := exists_exchanged split alike
  have whole := outer.rendered
  rw [slot, document] at whole
  have plain := plain_of_cellJson_eq_object whole
  -- The struct with the other member is no range, either.
  have plain' : meaningText? outer.field.notes outer.field.type (.struct others) = none := by
    rw [type] at plain ⊢
    exact meaningText?_struct_alike alikes plain
  rw [cellJson_struct type plain] at whole
  obtain ⟨pairs, listed, _⟩ := map_eq_ok_iff.mp whole
  obtain ⟨front, _, back, rfl, ahead, _, after⟩ :=
    forall₂_append_cons (split ▸ membersJson_eq_ok_iff.mp listed)
  -- The members are rendered under their names, the exchanged one as what was found.
  have named : List.Forall₂ Names (before ++ (member.field, other) :: behind)
      (front ++ (member.field.name, found) :: back) :=
    List.rel_append ahead (.cons ⟨rfl, rendered⟩ after)
  refine ⟨⟨true, .struct others⟩,
    Json.ofPairs (front ++ (member.field.name, found) :: back), ?_, ?_, ?_⟩
  · rw [slot]
    exact .mk (.struct alikes)
  · rw [cellJson_struct type plain', membersJson_eq_ok_iff.mpr (exchanged ▸ named)]
    rfl
  · -- The two objects differ under the name of the member.
    rw [document]
    intro same
    have kept := get?_of_last named last rendered
    rw [Json.object.inj same, held] at kept
    exact differ (Option.some.inj kept).symm

end

/-- A cell varies where one within it peeks: the difference stands at its place in all cells around. -/
theorem Within.varies {outer inner : Rendered} (within : Within outer inner) (peeks : Peeks inner) :
    Varies outer := by
  -- The induction goes from the cell outwards, through the lists and structs around it.
  induction within with
  | here cell => exact .of_peeks peeks
  | item type slot document place _ ih => exact .of_item type slot document place (ih peeks)
  | member type slot document split last held _ ih =>
    exact .of_member type slot document split last held (ih peeks)

section

variable (field : Field) (slot : Slot)

/-- What is stored for missing cells shows exactly where a range lacks a part. -/
theorem ignoresHidden_iff : IgnoresHidden field slot ↔ Quiet field slot := by
  constructor
  · -- A cell that peeks can be stored in another way that is shown as another document.
    rintro ignores cell ⟨outer, rfl, rfl, within⟩ peeks
    obtain ⟨other, document, alike, rendered, differ⟩ := within.varies peeks
    have same := ignores other alike
    rw [rendered, outer.rendered] at same
    exact differ (Except.ok.inj same)
  · exact fun quiet other alike => (agrees field slot other alike).same quiet

/-- A cell is null as it should be exactly if it is not missing without its own bit saying so. -/
theorem tellsMissing_iff : TellsMissing field slot ↔ ∀ cell, Shows field slot cell →
    Missing cell.field.type cell.slot → cell.slot.valid = false := by
  refine forall₂_congr fun cell _ => ?_
  have null := cellJson_eq_null_iff cell.field cell.slot
  rw [cell.rendered, Except.ok.injEq] at null
  rw [null]
  constructor
  · -- A cell that has nothing to show is null, and only a cell that is there can be unbounded.
    intro told missing
    rcases told.mpr (.inl missing) with hidden | unbounded
    · exact hidden
    · exact missing.valid_of_notFinite unbounded
  · intro own
    constructor
    · rintro (hidden | unbounded)
      · exact .inl (.of_valid hidden)
      · exact .inr unbounded
    · rintro (missing | unbounded)
      · exact .inl (own missing)
      · exact .inr unbounded

/-- A range that lacks a part is shown as a range exactly if it is read as one. -/
theorem showsWholeRanges_iff : ShowsWholeRanges field slot ↔ Quiet field slot := by
  refine forall₂_congr fun cell _ => ?_
  rw [Peeks, not_and]
  refine forall_congr' fun lacks => ?_
  rw [← lacks.shown_iff, not_exists]

/-- A cell is shown as it should be exactly where no cell within it is missing without its own bit
saying so, and no range within it is read of a missing address or length. -/
theorem shown_faithfully_iff :
    (TellsMissing field slot ↔ ∀ cell, Shows field slot cell →
      Missing cell.field.type cell.slot → cell.slot.valid = false) ∧
    (IgnoresHidden field slot ↔ ∀ cell, Shows field slot cell → ¬Peeks cell) ∧
    (ShowsWholeRanges field slot ↔ ∀ cell, Shows field slot cell → ¬Peeks cell) :=
  ⟨tellsMissing_iff field slot, ignoresHidden_iff field slot, showsWholeRanges_iff field slot⟩

end

/-- A field of a name and a type that may miss cells. -/
def bareField (name : String) (type : DataType) : Field :=
  ⟨name, type, true, none, []⟩

/-- A cell of a column without values is shown as an empty text. -/
def voidCell : Rendered :=
  ⟨bareField "none" .null, ⟨true, .nothing⟩, .string "", rfl⟩

/-- So is a key of a value that is missing. -/
def sharedCell : Rendered :=
  ⟨bareField "key" (.dictionary ⟨true, .four⟩ (.text .small)), ⟨true, .shared ⟨false, .text ""⟩⟩,
    .string "", rfl⟩

/-- A field of ranges of addresses. -/
def rangeField : Field :=
  { bareField "range" (.struct [bareField "address" (.fixedBinary 16),
      bareField "length" (.int ⟨false, .one⟩)]) with
    notes := [(extensionKey, "tenzir.subnet")] }

/-- A range of eight bits whose address is missing, with what is stored for the address. -/
def strayRange (address : Address) : Slot :=
  ⟨true, .struct [⟨false, .bytes address.bytes⟩, ⟨true, .int 8⟩]⟩

/-- It is shown as a range nonetheless. -/
theorem cellJson_strayRange (address : Address) :
    cellJson rangeField (strayRange address) = .ok (.string (Subnet.text ⟨address, 8⟩)) := by
  have read : subnetOf? rangeField.type (strayRange address).value = some ⟨address, 8⟩ :=
    subnetOf?_eq_some_iff.mpr ⟨_, _, rfl, rfl, addressOf?_eq_some_iff.mpr ⟨rfl, rfl⟩, rfl⟩
  apply cellJson_told
  exact congrArg (Option.map Subnet.text) read

example : Subnet.text ⟨.unspecified, 8⟩ = "::/8" := by decide +kernel

end

open scoped Platform in
/-- Cells of columns without values and keys of missing values are not shown as null, and a range
without its address is shown as a range, with what is stored for the address. -/
theorem not_shown_faithfully :
    ¬TellsMissing voidCell.field voidCell.slot ∧ ¬TellsMissing sharedCell.field sharedCell.slot ∧
      ¬IgnoresHidden rangeField (strayRange .unspecified) ∧
      ¬ShowsWholeRanges rangeField (strayRange .unspecified) := by
  refine ⟨fun tells => ?_, fun tells => ?_, fun ignores => ?_, fun whole => ?_⟩
  · cases (tells voidCell (.self _)).mpr (.inl (.null _))
  · cases (tells sharedCell (.self _)).mpr (.inl (.shared (.own _ _)))
  · -- The two ranges differ in an address that is missing, and are shown apart.
    have alike : AlikeSlot (strayRange .unspecified) (strayRange .loopback) :=
      .mk (.struct (.cons (.mk (.hidden (.bytes rfl))) (alikeSlots_refl _)))
    have same := ignores _ alike
    rw [cellJson_strayRange, cellJson_strayRange] at same
    exact Subnet.text_unspecified_ne_loopback 8 (Json.string.inj (Except.ok.inj same)).symm
  · exact whole _ (.self (cellJson_strayRange .unspecified))
      (.mk rfl rfl (.inl rfl) rfl (.own _ _)) ⟨.unspecified, 8⟩ rfl

end EngineClient.Arrow
