import EngineClient.Arrow.Cell
import EngineClient.Proofs.Answers
import EngineClient.Proofs.Engine.Source
import Mathlib.Data.List.Forall2

/-! Cells are rendered if those within them are, and one that cannot be is a failure of output. -/

namespace EngineClient.Arrow

/-- A result that is no failure but one of output. -/
def Renders {α : Type} (result : Except Error α) : Prop :=
  ∀ error, result = .error error → error.IsOfOutput

/-- A value at hand is no failure. -/
theorem renders_ok {α : Type} (value : α) : Renders (.ok value) := by
  intro error absurd
  cases absurd

/-- One result after another is no other failure if neither is. -/
theorem renders_bind {α β : Type} {first : Except Error α} {next : α → Except Error β}
    (before : Renders first) (behind : ∀ value, Renders (next value)) :
    Renders (first >>= next) := by
  intro error failed
  -- A failure is that of the first part, or of what follows its value.
  cases first with
  | error early =>
    cases failed
    exact before _ rfl
  | ok value => exact behind value error failed

/-- Changing a value adds no failure. -/
theorem renders_map {α β : Type} {result : Except Error α} (change : α → β)
    (renders : Renders result) : Renders (result.map change) := by
  intro error failed
  -- A change of the value leaves failures as they are.
  cases result with
  | error early =>
    cases failed
    exact renders _ rfl
  | ok value => cases failed

variable [Platform]

/-- A value that has no text is a failure of output. -/
theorem displayed_renders (type : DataType) (value : Value) : Renders (displayed type value) := by
  intro error failed
  unfold displayed at failed
  -- The only failure is that the type has no text for the value.
  split at failed
  · cases failed
  · cases failed
    exact ⟨.inr rfl, rfl⟩

/-- A value without others in it is rendered as what it is or as its text. -/
theorem scalarJson_renders (type : DataType) (value : Value) :
    Renders (scalarJson type value) := by
  fun_cases scalarJson type value
  all_goals first
    | exact renders_ok _
    | exact displayed_renders _ _

-- The induction is on the types, and on the fields and items within them.
mutual

/-- A cell is rendered, or fails as its value does. -/
theorem cellJson_renders (field : FieldOf DataType) (slot : SlotOf Value) :
    Renders (cellJson field slot) := by
  obtain ⟨name, type, nullable, source, notes⟩ := field
  obtain ⟨valid, value⟩ := slot
  simp only [cellJson]
  -- Cells that hold nothing are rendered without a look at their value.
  split
  · exact renders_ok _
  · split
    · exact renders_ok _
    · exact valueJson_renders type value

/-- A value is rendered, or fails as one within it does. -/
theorem valueJson_renders (type : DataType) (value : Value) : Renders (valueJson type value) := by
  unfold valueJson
  -- Values that hold others are rendered as these are.
  split
  · exact renders_map _ (itemsJson_renders _ _)
  · exact renders_map _ (membersJson_renders _ _)
  · exact scalarJson_renders _ _

/-- Items are rendered, or fail as the first of them that does. -/
theorem itemsJson_renders (item : FieldOf DataType) (slots : List (SlotOf Value)) :
    Renders (itemsJson item slots) := by
  -- The induction is on the items.
  cases slots with
  | nil =>
    simp only [itemsJson]
    exact renders_ok _
  | cons slot rest =>
    simp only [itemsJson]
    exact renders_bind (cellJson_renders item slot) fun _ =>
      renders_bind (itemsJson_renders item rest) fun _ => renders_ok _

/-- Cells side by side are rendered, or fail as the first of them that does. -/
theorem membersJson_renders (fields : List (FieldOf DataType)) (slots : List (SlotOf Value)) :
    Renders (membersJson fields slots) := by
  -- Members without fields are left out, and so are fields without members.
  cases fields with
  | nil =>
    simp only [membersJson]
    exact renders_ok _
  | cons field fields => cases slots with
    | nil =>
      simp only [membersJson]
      exact renders_ok _
    | cons slot rest =>
      simp only [membersJson]
      exact renders_bind (cellJson_renders field slot) fun _ =>
        renders_bind (membersJson_renders fields rest) fun _ => renders_ok _

end

section

variable {item : Field} {fields : List Field} {slots members : List Slot}

/-- Items are rendered exactly if each of them is. -/
theorem itemsJson_eq_ok_iff {documents : List Json} :
    itemsJson item slots = .ok documents ↔
      List.Forall₂ (fun slot document => cellJson item slot = .ok document) slots documents := by
  -- The induction is on the items, each of which adds its document.
  induction slots generalizing documents with
  | nil => simp only [itemsJson, Except.ok.injEq, List.forall₂_nil_left_iff, eq_comm]
  | cons slot rest ih =>
    simp only [itemsJson, bind_eq_ok_iff, List.forall₂_cons_left_iff]
    constructor
    · rintro ⟨document, one, others, more, same⟩
      cases same
      exact ⟨document, others, one, ih.mp more, rfl⟩
    · rintro ⟨document, others, one, more, rfl⟩
      exact ⟨document, one, others, ih.mpr more, rfl⟩

/-- A pair of the name of a field and the document of a cell of it. -/
def Names (cell : Field × Slot) (pair : String × Json) : Prop :=
  pair.1 = cell.1.name ∧ cellJson cell.1 cell.2 = .ok pair.2

/-- So are members, under the names of their fields. -/
theorem membersJson_eq_ok_iff {pairs : List (String × Json)} :
    membersJson fields members = .ok pairs ↔ List.Forall₂ Names (List.zip fields members) pairs := by
  -- The induction is on the fields and the members together.
  induction fields generalizing members pairs with
  | nil => simp only [membersJson, Except.ok.injEq, List.zip_nil_left, List.forall₂_nil_left_iff,
      eq_comm]
  | cons field fields ih => cases members with
    | nil => simp only [membersJson, Except.ok.injEq, List.zip_nil_right, List.forall₂_nil_left_iff,
        eq_comm]
    | cons slot rest =>
      simp only [membersJson, bind_eq_ok_iff, List.zip_cons_cons, List.forall₂_cons_left_iff]
      constructor
      · rintro ⟨document, one, others, more, same⟩
        cases same
        exact ⟨(field.name, document), others, ⟨rfl, one⟩, ih.mp more, rfl⟩
      · rintro ⟨⟨name, document⟩, others, ⟨named, one⟩, more, rfl⟩
        cases named
        exact ⟨document, one, others, ih.mpr more, rfl⟩

end

/-- A row is rendered, or fails as the first of its cells that does. -/
theorem rowJson_renders (schema : Schema) (row : List Slot) : Renders (rowJson schema row) :=
  renders_map _ (membersJson_renders schema.fields row)

end EngineClient.Arrow
