import EngineClient.Proofs.Json.Items
import EngineClient.Proofs.Json.RoundTrip
import EngineClient.Proofs.Text.Blank

/-! Documents that are printed one a line are read back line by line. -/

namespace EngineClient.Utf8

/-- A newline among the bytes of some characters is one of the characters. -/
theorem newline_mem_of_spell {chars : List Char} (member : 0xA ∈ spell chars) : '\n' ∈ chars := by
  obtain ⟨char, among, spelled⟩ := List.mem_flatMap.mp member
  -- A low character is its one byte, and the bytes of any other are high.
  by_cases small : char.toNat < 0x80
  · rw [utf8EncodeChar_ascii small, List.mem_singleton] at spelled
    have code : char.toNat = 10 := by
      rw [← toNat_byte char.toNat (by omega), ← spelled]
      rfl
    have same : char = '\n' := by
      rw [← Char.ofNat_toNat char, code]
    exact same ▸ among
  · have high := utf8EncodeChar_high (Nat.le_of_not_lt small) spelled
    exact absurd high (by decide)

end EngineClient.Utf8

namespace EngineClient.Json

open Utf8 (spell)

/-- A hexadecimal digit is no newline. -/
theorem hexDigit_ne_newline (value : Fin 16) : Bytes.hexDigit value ≠ '\n' := by
  -- There are sixteen digits to look at.
  revert value
  decide

/-- A character is written without a newline. -/
theorem newline_notMem_escape (char : Char) : '\n' ∉ escape char := by
  unfold escape
  -- The newline has an escape of its own, and that of a control character is made of digits.
  split_ifs with _ _ _ _ newline _ _ control
  all_goals try decide
  · have high := hexDigit_ne_newline ⟨char.toNat / 16, by omega⟩
    have low := hexDigit_ne_newline ⟨char.toNat % 16, by omega⟩
    simp [high.symm, low.symm]
  · simpa using Ne.symm newline

/-- So is a text. -/
theorem newline_notMem_quote (text : String) : '\n' ∉ quote text := by
  intro member
  rw [quote, List.mem_append, List.mem_cons, List.mem_flatMap] at member
  -- It would be one of the quotes or in the escape of a character.
  rcases member with (absurd | ⟨char, _, written⟩) | absurd
  · cases absurd
  · exact newline_notMem_escape char written
  · cases List.mem_singleton.mp absurd

/-- So is a number. -/
theorem newline_notMem_render (number : Number) : '\n' ∉ number.render.toList := by
  intro member
  -- A newline is a blank, and a number has none.
  have blank := Number.isDense_render number '\n' member
  cases blank

-- The induction is on the documents, and on those within them.
mutual

/-- A document is printed on one line. -/
theorem newline_notMem_compactList (document : Json) : '\n' ∉ document.compactList := by
  -- What is put between the parts of a document is no newline.
  cases document with
  | null => decide
  | bool value => cases value <;> decide
  | number number => exact newline_notMem_render number
  | string text => exact newline_notMem_quote text
  | array items =>
    have inside := newline_notMem_compactItems items
    simp [compactList, inside]
  | object fields =>
    have inside := newline_notMem_compactFields fields
    simp [compactList, inside]

/-- So are the documents of a list. -/
theorem newline_notMem_compactItems (items : List Json) : '\n' ∉ compactItems items := by
  -- Commas stand between the items, and nothing behind the last.
  match items with
  | [] => exact List.not_mem_nil
  | [item] => exact newline_notMem_compactList item
  | item :: other :: rest =>
    have first := newline_notMem_compactList item
    have behind := newline_notMem_compactItems (other :: rest)
    simp [compactItems, first, behind]

/-- So are the documents of an object and their names. -/
theorem newline_notMem_compactFields (fields : List (String × Json)) :
    '\n' ∉ compactFields fields := by
  -- A colon stands behind each name, and commas between the fields.
  match fields with
  | [] => exact List.not_mem_nil
  | [(name, document)] =>
    have named := newline_notMem_quote name
    have first := newline_notMem_compactList document
    simp [compactFields, named, first]
  | (name, document) :: other :: rest =>
    have named := newline_notMem_quote name
    have first := newline_notMem_compactList document
    have behind := newline_notMem_compactFields (other :: rest)
    simp [compactFields, named, first, behind]

end

/-- A document is printed without a newline. -/
theorem newline_notMem_compact (document : Json) : '\n' ∉ document.compact.toList := by
  rw [compact, String.toList_ofList]
  exact newline_notMem_compactList document

/-- Documents, each on a line of its own. -/
def lined (documents : List Json) : String :=
  String.join (documents.map fun document => document.compact ++ "\n")

/-- The lines of some documents begin with the first of them. -/
theorem encode_lined_cons (document : Json) (documents : List Json) :
    Utf8.encode (lined (document :: documents))
      = spell document.compactList ++ 0xA :: Utf8.encode (lined documents) := by
  have newline : String.utf8EncodeChar '\n' = [0xA] := by decide
  -- Writing a text as bytes is writing its parts one behind the other.
  simp [Utf8.encode_eq_spell, lined, compact, newline]

/-- A printed object has nothing around it that is trimmed. -/
theorem trimBytes_object (fields : Fields) :
    Text.trimBytes (spell (object fields).compactList) = spell (object fields).compactList := by
  have braces : spell (object fields).compactList
      = 0x7B :: (spell (compactFields fields) ++ [0x7D]) := by
    rw [compactList, List.cons_append, Utf8.spell_cons, Utf8.spell_append]
    rfl
  -- The braces on both sides are no blanks.
  refine Text.Trimmed.trimList_eq ⟨fun byte head => ?_, fun byte last => ?_⟩
  · rw [braces] at head
    cases head
    rfl
  · rw [braces, ← List.cons_append, List.getLast?_concat] at last
    cases last
    rfl

namespace Lines

/-- Objects that are printed one a line are read back one a line, if their whole numbers fit, their
names ascend, and they hold no floating-point number and no more levels than are allowed. -/
theorem spells_lined {objects : List Fields}
    (plain : ∀ fields ∈ objects, IsPlain depthLimit (object fields))
    (proper : ∀ fields ∈ objects, IsProper (object fields)) :
    Spells (Utf8.encode (lined (objects.map object))) objects := by
  unfold Spells
  generalize 1 = place
  -- The induction is on the objects, each of which is the next line.
  induction objects generalizing place with
  | nil =>
    have empty : Utf8.encode (lined ([].map object)) = [] := rfl
    rw [empty, unitsFrom_nil]
    exact .nil
  | cons fields objects ih =>
    obtain ⟨firstPlain, othersPlain⟩ := List.forall_mem_cons.mp plain
    obtain ⟨firstProper, othersProper⟩ := List.forall_mem_cons.mp proper
    -- The first newline is the one behind the object.
    have absent : 0xA ∉ spell (object fields).compactList := fun newline =>
      newline_notMem_compactList _ (Utf8.newline_mem_of_spell newline)
    have filled : (spell (object fields).compactList).isEmpty = false := rfl
    rw [List.map_cons, encode_lined_cons, unitsFrom_line absent, trimBytes_object, filled]
    -- The line is the object as it was printed, and read back as it was.
    have read := parse_compact firstPlain firstProper
    rw [Utf8.encode_eq_spell, compact, String.toList_ofList] at read
    exact .cons read (ih othersPlain othersProper (place + 1))

end Lines

end EngineClient.Json
