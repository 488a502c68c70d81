import EngineClient.Arrow.Display
import Mathlib.Data.List.Forall2

/-! Columns that differ in what is stored for missing cells only, and the plain text of their cells. -/

namespace EngineClient.Arrow

/-- Stored values of one kind that hold no others; byte strings are of one length as well. -/
inductive SameForm : Value → Value → Prop
  | nothing : SameForm .nothing .nothing
  | bool (value other : Bool) : SameForm (.bool value) (.bool other)
  | int (value other : Int) : SameForm (.int value) (.int other)
  | float (bits others : Nat) : SameForm (.float bits) (.float others)
  | bytes {bytes others : Bytes} (size : bytes.length = others.length) :
    SameForm (.bytes bytes) (.bytes others)
  | text (text other : String) : SameForm (.text text) (.text other)
  | dayTime (days milliseconds days' milliseconds' : Int) :
    SameForm (.dayTime days milliseconds) (.dayTime days' milliseconds')
  | monthDayNano (months days nanoseconds months' days' nanoseconds' : Int) :
    SameForm (.monthDayNano months days nanoseconds) (.monthDayNano months' days' nanoseconds')

mutual

/-- Cells that are both there or both missing, and alike in what is stored. -/
inductive AlikeSlot : SlotOf Value → SlotOf Value → Prop
  | mk {valid : Bool} {value other : Value} (alike : AlikeValue valid value other) :
    AlikeSlot ⟨valid, value⟩ ⟨valid, other⟩

/-- What is stored in alike cells: the same in a cell that is there, and of the same form in one that
is missing. Lists are as long and hold alike cells at every level, also where they are missing. -/
inductive AlikeValue : Bool → Value → Value → Prop
  | same (value : Value) : AlikeValue true value value
  | hidden {value other : Value} (form : SameForm value other) : AlikeValue false value other
  | list {valid : Bool} {items others : List (SlotOf Value)}
    (alike : List.Forall₂ AlikeSlot items others) : AlikeValue valid (.list items) (.list others)
  | struct {valid : Bool} {members others : List (SlotOf Value)}
    (alike : List.Forall₂ AlikeSlot members others) :
    AlikeValue valid (.struct members) (.struct others)
  | choice {valid : Bool} (member : Nat) {slot other : SlotOf Value} (alike : AlikeSlot slot other) :
    AlikeValue valid (.choice member slot) (.choice member other)
  | shared {valid : Bool} {slot other : SlotOf Value} (alike : AlikeSlot slot other) :
    AlikeValue valid (.shared slot) (.shared other)

end

-- The induction is on the values, and on the cells within them.
mutual

/-- A cell is like itself. -/
theorem AlikeSlot.refl (slot : SlotOf Value) : AlikeSlot slot slot := by
  obtain ⟨valid, value⟩ := slot
  exact .mk (AlikeValue.refl valid value)

/-- So is what is stored in it. -/
theorem AlikeValue.refl (valid : Bool) (value : Value) : AlikeValue valid value value := by
  -- What is missing is of its own form, unless it holds cells itself.
  cases valid with
  | true => exact .same value
  | false => cases value with
    | nothing => exact .hidden .nothing
    | bool value => exact .hidden (.bool value value)
    | int value => exact .hidden (.int value value)
    | float bits => exact .hidden (.float bits bits)
    | bytes bytes => exact .hidden (.bytes rfl)
    | text text => exact .hidden (.text text text)
    | dayTime days milliseconds => exact .hidden (.dayTime ..)
    | monthDayNano months days nanoseconds => exact .hidden (.monthDayNano ..)
    | list items => exact .list (alikeSlots_refl items)
    | struct members => exact .struct (alikeSlots_refl members)
    | choice member slot => exact .choice member (AlikeSlot.refl slot)
    | shared slot => exact .shared (AlikeSlot.refl slot)

/-- So are cells in order. -/
theorem alikeSlots_refl (slots : List (SlotOf Value)) : List.Forall₂ AlikeSlot slots slots := by
  cases slots with
  | nil => exact .nil
  | cons slot rest => exact .cons (AlikeSlot.refl slot) (alikeSlots_refl rest)

end

/-- Of two values of one form either is of the form of the other. -/
theorem SameForm.symm {value other : Value} (form : SameForm value other) : SameForm other value := by
  cases form with
  | bytes size => exact .bytes size.symm
  | _ => constructor

-- The induction is on the first value, and on the cells within it.
mutual

/-- Of two alike cells either is like the other. -/
theorem AlikeSlot.symm (slot : SlotOf Value) {other : SlotOf Value} (alike : AlikeSlot slot other) :
    AlikeSlot other slot := by
  obtain ⟨valid, value⟩ := slot
  obtain ⟨alike⟩ := alike
  exact .mk (AlikeValue.symm value alike)
termination_by structural slot

/-- So is what is stored in them. -/
theorem AlikeValue.symm {valid : Bool} (value : Value) {other : Value}
    (alike : AlikeValue valid value other) : AlikeValue valid other value := by
  -- The cases are those of the value, as the recursion is on the cells it holds.
  cases value
  case list items =>
    cases alike with
    | same => exact .same _
    | hidden form => exact .hidden form.symm
    | list alike => exact .list (alikeSlots_symm items alike)
  case struct members =>
    cases alike with
    | same => exact .same _
    | hidden form => exact .hidden form.symm
    | struct alike => exact .struct (alikeSlots_symm members alike)
  case choice member slot =>
    cases alike with
    | same => exact .same _
    | hidden form => exact .hidden form.symm
    | choice _ alike => exact .choice member (AlikeSlot.symm slot alike)
  case shared slot =>
    cases alike with
    | same => exact .same _
    | hidden form => exact .hidden form.symm
    | shared alike => exact .shared (AlikeSlot.symm slot alike)
  -- A value that holds no cells is the same or of the same form.
  all_goals
    cases alike with
    | same => exact .same _
    | hidden form => exact .hidden form.symm
termination_by structural value

/-- So are cells in order. -/
theorem alikeSlots_symm (slots : List (SlotOf Value)) {others : List (SlotOf Value)}
    (alike : List.Forall₂ AlikeSlot slots others) : List.Forall₂ AlikeSlot others slots := by
  -- The cells are taken one by one on both sides.
  cases slots with
  | nil =>
    cases alike
    exact .nil
  | cons slot rest =>
    obtain _ | ⟨one, more⟩ := alike
    exact .cons (AlikeSlot.symm slot one) (alikeSlots_symm rest more)
termination_by structural slots

end

-- The induction is on the first value, and on the cells within it.
mutual

/-- Alike cells have the same plain text. -/
theorem displaySlot_alike (type : DataType) (slot : SlotOf Value) {other : SlotOf Value}
    (alike : AlikeSlot slot other) : displaySlot type slot = displaySlot type other := by
  obtain ⟨valid, value⟩ := slot
  -- Both cells are there or both are missing.
  obtain ⟨alike⟩ := alike
  simp only [displaySlot]
  -- What is stored in a missing cell is not looked at.
  cases valid with
  | true => exact display_alike type value alike
  | false => rfl
termination_by structural slot

/-- So have the values of alike cells that are there. -/
theorem display_alike (type : DataType) (value : Value) {other : Value}
    (alike : AlikeValue true value other) : display type value = display type other := by
  cases value
  case list items =>
    cases alike with
    | same => rfl
    | list alike =>
      simp only [display]
      -- Of the types of lists, only maps have entries.
      split
      · rw [displayItems_alike _ _ items alike]
      · rw [displayItems_alike _ _ items alike]
      · rw [displayEntries_alike _ _ items alike]
      · rfl
  case struct members =>
    cases alike with
    | same => rfl
    | struct alike =>
      simp only [display]
      split
      · rw [displayMembers_alike _ _ members alike]
      · rfl
  case choice member slot =>
    cases alike with
    | same => rfl
    | choice _ alike =>
      simp only [display]
      split
      · rw [displaySlot_alike _ slot alike]
      · rfl
  case shared slot =>
    cases alike with
    | same => rfl
    | shared alike =>
      simp only [display]
      split
      · exact displaySlot_alike _ slot alike
      · exact displaySlot_alike _ slot alike
      · rfl
  -- A value that holds no cells is the same on both sides.
  all_goals
    cases alike
    rfl
termination_by structural value

/-- So have the items of alike lists. -/
theorem displayItems_alike (type : DataType) (first : Bool) (items : List (SlotOf Value))
    {others : List (SlotOf Value)} (alike : List.Forall₂ AlikeSlot items others) :
    displayItems type first items = displayItems type first others := by
  -- The items are shown one by one, with commas between them.
  cases items with
  | nil =>
    cases alike
    rfl
  | cons item rest =>
    obtain _ | ⟨one, more⟩ := alike
    simp only [displayItems]
    rw [displaySlot_alike type item one, displayItems_alike type false rest more]
termination_by structural items

/-- So have the members of alike values. -/
theorem displayMembers_alike (first : Bool) (fields : List Field) (members : List (SlotOf Value))
    {others : List (SlotOf Value)} (alike : List.Forall₂ AlikeSlot members others) :
    displayMembers first fields members = displayMembers first fields others := by
  cases members with
  | nil =>
    cases alike
    rfl
  | cons member rest =>
    obtain _ | ⟨one, more⟩ := alike
    -- Members are shown as long as there are fields for them.
    cases fields with
    | nil => rfl
    | cons field fields =>
      simp only [displayMembers]
      rw [displaySlot_alike field.type member one, displayMembers_alike false fields rest more]
termination_by structural members

/-- So have the entries of alike maps. -/
theorem displayEntries_alike (types : DataType × DataType) (first : Bool)
    (items : List (SlotOf Value)) {others : List (SlotOf Value)}
    (alike : List.Forall₂ AlikeSlot items others) :
    displayEntries types first items = displayEntries types first others := by
  cases items with
  | nil =>
    cases alike
    rfl
  | cons item rest =>
    -- An entry is looked at whether it is there or not.
    obtain ⟨valid, entry⟩ := item
    obtain _ | ⟨⟨one⟩, more⟩ := alike
    simp only [displayEntries]
    rw [displayEntry_alike types entry one, displayEntries_alike types false rest more]
termination_by structural items

/-- So has an entry, even one that is missing: its key and its value are there or not themselves. -/
theorem displayEntry_alike (types : DataType × DataType) {valid : Bool} (entry : Value)
    {other : Value} (alike : AlikeValue valid entry other) :
    displayEntry types entry = displayEntry types other := by
  cases entry
  case struct members =>
    cases alike with
    | same => rfl
    | hidden form => cases form
    | struct alike =>
      -- An entry is a key and a value.
      match members, alike with
      | [], .nil => rfl
      | [_], .cons _ .nil => rfl
      | [key, value], .cons one (.cons more .nil) =>
        simp only [displayEntry]
        rw [displaySlot_alike types.1 key one, displaySlot_alike types.2 value more]
      | _ :: _ :: _ :: _, .cons _ (.cons _ (.cons _ _)) => rfl
  all_goals
    cases alike with
    | hidden form => cases form <;> rfl
    | _ => rfl
termination_by structural entry

end

end EngineClient.Arrow
