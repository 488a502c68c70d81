import EngineClient.Proofs.Json.Numeral
import EngineClient.Proofs.Json.Parser
import EngineClient.Proofs.Json.Text
import EngineClient.Proofs.Keyed

/-! A document that is printed on one line is read back as that document, unless it holds a
floating-point number or is nested too deeply. -/

namespace EngineClient.Json

open Utf8 (spell)

/-- A document that can be written down: whole numbers fit sixty-four bits, with a sign or without one,
and the names of an object ascend. -/
inductive IsProper : Json → Prop where
  | null : IsProper .null
  | bool (value : Bool) : IsProper (.bool value)
  | int {value : Int} (least : -(Nat.pow 2 63 : Nat) ≤ value) (most : value ≤ Unsigned.max64) :
    IsProper (.number (.int value))
  | double (value : Double) : IsProper (.number (.double value))
  | string (text : String) : IsProper (.string text)
  | array {items : List Json} (all : ∀ item ∈ items, IsProper item) : IsProper (.array items)
  | object {fields : Fields} (ascends : fields.Ascends) (all : ∀ field ∈ fields, IsProper field.2) :
    IsProper (.object fields)

/-- A document without floating-point numbers that is nested at most a number of levels deep. -/
inductive IsPlain : Nat → Json → Prop where
  | null (depth : Nat) : IsPlain depth .null
  | bool (depth : Nat) (value : Bool) : IsPlain depth (.bool value)
  | int (depth : Nat) (value : Int) : IsPlain depth (.number (.int value))
  | string (depth : Nat) (text : String) : IsPlain depth (.string text)
  | array {depth : Nat} {items : List Json} (all : ∀ item ∈ items, IsPlain depth item) :
    IsPlain (depth + 1) (.array items)
  | object {depth : Nat} {fields : Fields} (all : ∀ field ∈ fields, IsPlain depth field.2) :
    IsPlain (depth + 1) (.object fields)

/-- A document that is nested at most a number of levels deep is so at most a greater number. -/
theorem IsPlain.mono {depth more : Nat} {document : Json} (plain : IsPlain depth document)
    (room : depth ≤ more) : IsPlain more document := by
  -- The induction is on the document, and each list or object takes a level on both sides.
  induction plain generalizing more with
  | null => exact .null more
  | bool depth value => exact .bool more value
  | int depth value => exact .int more value
  | string depth text => exact .string more text
  | array all ih =>
    obtain ⟨more, rfl⟩ := Nat.exists_eq_add_of_le' (Nat.le_of_add_left_le room)
    exact .array fun item member => ih item member (Nat.le_of_succ_le_succ room)
  | object all ih =>
    obtain ⟨more, rfl⟩ := Nat.exists_eq_add_of_le' (Nat.le_of_add_left_le room)
    exact .object fun field member => ih field member (Nat.le_of_succ_le_succ room)

/-- The printed document is read back inside at most `depth` further lists and objects, whatever it
stands before. -/
def Reads (depth : Nat) (document : Json) : Prop :=
  ∀ (rest : Bytes) (fuel : Nat), IsOver rest → (spell document.compactList).length ≤ fuel →
    value depth (spell document.compactList ++ rest) fuel = .ok (document, rest)

/-- The bytes of a quoted text. -/
theorem spell_quote (text : String) :
    spell (quote text) = 0x22 :: (spell (text.toList.flatMap escape) ++ [0x22]) := by
  rw [quote, List.cons_append, Utf8.spell_cons, Utf8.spell_append]
  rfl

section

variable {depth fuel : Nat} {rest : Bytes}

/-- Nothing is skipped in front of a byte that is no blank. -/
theorem skipSpace_cons {byte : UInt8} (space : isSpace byte = false) (behind : Bytes) :
    skipSpace (byte :: behind) = byte :: behind :=
  List.dropWhile_cons_of_neg (Bool.eq_false_iff.mp space)

/-- A quoted text is read as that text. -/
theorem value_quote (text : String) :
    value depth (spell (quote text) ++ rest) (fuel + 1) = .ok (.string text, rest) := by
  have read := stringBody_escaped text rest
  -- A quotation mark is no blank, so the value begins with it.
  have kept (behind : Bytes) : skipSpace (0x22 :: behind) = 0x22 :: behind := skipSpace_cons rfl behind
  rw [spell_quote, List.cons_append, List.append_assoc, List.singleton_append]
  simp only [value, kept, read]

/-- A digit is no blank. -/
theorem isSpace_of_isDigit {byte : UInt8} (digit : isDigit byte = true) : isSpace byte = false := by
  cases space : isSpace byte with
  | false => rfl
  | true =>
    -- A blank would be one of four bytes, and none of them is a digit.
    simp only [isSpace, Bool.or_eq_true, decide_eq_true_eq] at space
    rcases space with ((rfl | rfl) | rfl) | rfl <;> cases digit

/-- A byte that is a digit begins a number. -/
theorem value_digit {byte : UInt8} (digit : isDigit byte = true) {number : Number} {behind : Bytes}
    (read : numeral true (byte :: behind) = .ok (number, rest)) :
    value depth (byte :: behind) (fuel + 1) = .ok (.number number, rest) := by
  rw [value, skipSpace_cons (isSpace_of_isDigit digit)]
  -- No other kind of value begins with a digit.
  split <;> rename_i same <;> cases same
  all_goals first
    | cases digit
    | simp only [if_pos digit, read]

/-- A number that is printed is read as that number. -/
theorem value_int {number : Int} (least : -(Nat.pow 2 63 : Nat) ≤ number)
    (most : number ≤ Unsigned.max64) (past : IsOver rest) :
    value depth (spell (Number.int number).render.toList ++ rest) (fuel + 1)
      = .ok (.number (.int number), rest) := by
  rw [toList_render_int]
  cases number with
  | ofNat size =>
    have read := numeral_natural past (Int.ofNat_le.mp most)
    show value depth (spell (Nat.toDigits 10 size) ++ rest) (fuel + 1) = _
    -- There is at least one digit, and it is the first byte of the number.
    cases written : Nat.toDigits 10 size with
    | nil => exact absurd written Nat.toDigits_ne_nil
    | cons first others =>
      have digit : first.isDigit = true :=
        Nat.isDigit_of_mem_toDigits (by decide) (by decide) (written ▸ List.mem_cons_self)
      rw [written, Utf8.spell_cons, utf8EncodeChar_digit digit] at read
      rw [Utf8.spell_cons, utf8EncodeChar_digit digit]
      exact value_digit (isDigit_digitByte digit) read
  -- A number below zero has a sign in front of its digits, and the sign is its first byte.
  | negSucc below =>
    have fits : below + 1 ≤ Nat.pow 2 63 := by omega
    have read := numeral_negative past fits
    have sign : spell ('-' :: Nat.toDigits 10 (below + 1)) ++ rest
        = 0x2D :: (spell (Nat.toDigits 10 (below + 1)) ++ rest) := rfl
    have kept (behind : Bytes) : skipSpace (0x2D :: behind) = 0x2D :: behind := skipSpace_cons rfl behind
    show value depth (spell ('-' :: Nat.toDigits 10 (below + 1)) ++ rest) (fuel + 1) = _
    rw [sign]
    simp only [value, kept, read]

end

/-- Bytes that begin a value, and neither a blank nor the end of a list. -/
structure Begins (bytes : Bytes) : Prop where
  intro ::
  begins : ∃ byte behind, bytes = byte :: behind ∧ isSpace byte = false ∧ byte ≠ 0x5D

/-- A document that is printed begins a value, whatever follows it. -/
theorem begins_compact {depth : Nat} {document : Json} (plain : IsPlain depth document)
    (rest : Bytes) : Begins (spell document.compactList ++ rest) := by
  constructor
  -- Each kind of document has its own first byte; only that of a number needs a look at its digits.
  cases plain with
  | null => exact ⟨_, _, rfl, by decide, by decide⟩
  | bool depth value => cases value <;> exact ⟨_, _, rfl, by decide, by decide⟩
  | string => exact ⟨_, _, rfl, by decide, by decide⟩
  | array => exact ⟨_, _, rfl, by decide, by decide⟩
  | object => exact ⟨_, _, rfl, by decide, by decide⟩
  | int depth value =>
    rw [compactList, toList_render_int]
    cases value with
    | negSucc below => exact ⟨_, _, rfl, by decide, by decide⟩
    | ofNat size =>
      show ∃ byte behind, spell (Nat.toDigits 10 size) ++ rest = byte :: behind ∧ _
      cases written : Nat.toDigits 10 size with
      | nil => exact absurd written Nat.toDigits_ne_nil
      | cons first others =>
        have digit : first.isDigit = true :=
          Nat.isDigit_of_mem_toDigits (by decide) (by decide) (written ▸ List.mem_cons_self)
        rw [Utf8.spell_cons, utf8EncodeChar_digit digit]
        -- The end of a list is no digit, so it is not what the digits begin with.
        refine ⟨_, _, rfl, isSpace_of_isDigit (isDigit_digitByte digit), fun bracket => ?_⟩
        have read := isDigit_digitByte digit
        rw [bracket] at read
        cases read

section

variable {bytes : Bytes} (begins : Begins bytes)
include begins

/-- The first member of a list is found where the list begins. -/
theorem nextItem_first : nextItem true bytes = .ok (some bytes, []) := by
  obtain ⟨byte, behind, rfl, space, last⟩ := begins
  rw [nextItem, skipSpace_cons space]
  -- The byte that begins a value does not end the list.
  split <;> rename_i same <;> cases same
  · exact (last rfl).elim
  · rfl

/-- A further member of a list is found behind a comma. -/
theorem nextItem_comma : nextItem false (0x2C :: bytes) = .ok (some bytes, []) := by
  obtain ⟨byte, behind, rfl, space, last⟩ := begins
  have comma (behind : Bytes) : skipSpace (0x2C :: behind) = 0x2C :: behind := skipSpace_cons rfl behind
  rw [nextItem, comma]
  split <;> rename_i same <;> cases same
  simp only [Bool.false_eq_true, if_false, if_true]
  -- Behind the comma the value begins, which is not the end of the list.
  rw [skipSpace_cons space]
  split
  · rename_i same
    cases same
  · rename_i same
    cases same
    exact (last rfl).elim
  · rfl

end

/-- Documents with a comma before each of them. -/
def commaItems (items : List Json) : List Char :=
  items.flatMap fun item => ',' :: item.compactList

/-- Named documents with a comma before each of them. -/
def commaFields (fields : Fields) : List Char :=
  fields.flatMap fun field => ',' :: (quote field.1 ++ ':' :: field.2.compactList)

/-- All documents but the first have a comma before them. -/
theorem compactItems_cons (item : Json) (items : List Json) :
    compactItems (item :: items) = item.compactList ++ commaItems items := by
  -- The induction is on the other documents.
  induction items generalizing item with
  | nil => rw [compactItems, commaItems, List.flatMap_nil, List.append_nil]
  | cons other items ih =>
    rw [compactItems, ih, commaItems, commaItems, List.flatMap_cons, List.cons_append]
    exact nofun

/-- All named documents but the first have a comma before them. -/
theorem compactFields_cons (name : String) (document : Json) (fields : Fields) :
    compactFields ((name, document) :: fields)
      = quote name ++ ':' :: document.compactList ++ commaFields fields := by
  -- The induction is on the other documents and their names.
  induction fields generalizing name document with
  | nil => rw [compactFields, commaFields, List.flatMap_nil, List.append_nil]
  | cons other fields ih =>
    obtain ⟨otherName, other⟩ := other
    rw [compactFields, ih, commaFields, commaFields, List.flatMap_cons]
    · simp
    · exact nofun

section

variable {depth : Nat}

/-- What follows a member of a list ends it. -/
theorem isOver_commaItems (items : List Json) (rest : Bytes) :
    IsOver (spell (commaItems items) ++ 0x5D :: rest) := by
  cases items with
  | nil => exact .inr (.inl rfl)
  | cons item items => exact .inl rfl

/-- What follows a member of an object ends it. -/
theorem isOver_commaFields (fields : Fields) (rest : Bytes) :
    IsOver (spell (commaFields fields) ++ 0x7D :: rest) := by
  cases fields with
  | nil => exact .inr (.inr rfl)
  | cons field fields => exact .inl rfl

/-- A printed document takes at least a byte. -/
theorem length_compact_pos {document : Json} (plain : IsPlain depth document) :
    0 < (spell document.compactList).length := by
  -- The byte that it begins with is there.
  obtain ⟨byte, behind, same, _⟩ := (begins_compact plain []).begins
  rw [List.append_nil] at same
  rw [same]
  exact Nat.succ_pos _

/-- The members of a list are read behind those before them, if each of them is read. -/
theorem items_commaItems {items : List Json} (plain : ∀ item ∈ items, IsPlain depth item)
    (reads : ∀ item ∈ items, Reads depth item) (read : List Json) (rest : Bytes) {fuel : Nat}
    (enough : (spell (commaItems items)).length < fuel) :
    Json.items depth false read (spell (commaItems items) ++ 0x5D :: rest) fuel
      = .ok (.array (read.reverse ++ items), rest) := by
  -- The induction is on the members; a comma takes a byte, so what fuel is left will do for the others.
  induction items generalizing read fuel with
  | nil =>
    obtain ⟨fuel, rfl⟩ := Nat.exists_eq_add_one.mpr (show 0 < fuel by omega)
    rw [List.append_nil]
    exact items_of_end rfl
  | cons item items ih =>
    obtain ⟨first, others⟩ := List.forall_mem_cons.mp plain
    obtain ⟨firstReads, otherReads⟩ := List.forall_mem_cons.mp reads
    have written : spell (commaItems (item :: items))
        = 0x2C :: (spell item.compactList ++ spell (commaItems items)) := by
      rw [commaItems, List.flatMap_cons, List.cons_append, Utf8.spell_cons, Utf8.spell_append]
      rfl
    rw [written, List.length_cons, List.length_append] at enough
    obtain ⟨fuel, rfl⟩ := Nat.exists_eq_add_one.mpr (show 0 < fuel by omega)
    -- The first of the members ends where the next comma or the bracket stands.
    have one := firstReads _ fuel (isOver_commaItems items rest) (by omega)
    rw [written, List.cons_append, List.append_assoc,
      items_of_member (nextItem_comma (begins_compact first _)) one,
      ih others otherReads (item :: read) (by omega), List.reverse_cons, List.append_assoc,
      List.singleton_append]

/-- A member of an object that is there and can be read is set among those before it. -/
theorem members_of_member {first : Bool} {read : Fields} {name : String} {document : Json}
    {bytes behind : Bytes} {fuel : Nat} (rest : Bytes)
    (next : nextName first bytes = .ok (some (spell (name.toList.flatMap escape) ++ 0x22
      :: 0x3A :: (spell document.compactList ++ rest)), behind))
    (one : value depth (spell document.compactList ++ rest) fuel = .ok (document, rest)) :
    members depth first read bytes (fuel + 1)
      = members depth false (read.put name document) rest fuel := by
  -- The name comes first, then the colon, and then the document.
  have named := stringBody_escaped name (0x3A :: (spell document.compactList ++ rest))
  have separated : colon (0x3A :: (spell document.compactList ++ rest))
      = .ok (spell document.compactList ++ rest) := rfl
  simp only [members, next, named, separated, one]

/-- The members of an object are set among those before them, if each of them is read. -/
theorem members_commaFields {fields : Fields} (reads : ∀ field ∈ fields, Reads depth field.2)
    (read : Fields) (rest : Bytes) {fuel : Nat}
    (enough : (spell (commaFields fields)).length < fuel) :
    members depth false read (spell (commaFields fields) ++ 0x7D :: rest) fuel
      = .ok (.object (fields.foldl (fun read field => Keyed.put field.1 field.2 read) read), rest) := by
  -- The induction is that on the members of a list, but for the name before each document.
  induction fields generalizing read fuel with
  | nil =>
    obtain ⟨fuel, rfl⟩ := Nat.exists_eq_add_one.mpr (show 0 < fuel by omega)
    rfl
  | cons field fields ih =>
    obtain ⟨name, document⟩ := field
    obtain ⟨firstReads, otherReads⟩ := List.forall_mem_cons.mp reads
    simp only at firstReads
    have written : spell (commaFields ((name, document) :: fields))
        = 0x2C :: 0x22 :: (spell (name.toList.flatMap escape) ++ 0x22 :: 0x3A
          :: (spell document.compactList ++ spell (commaFields fields))) := by
      have comma : String.utf8EncodeChar ',' = [0x2C] := by decide
      have separator : String.utf8EncodeChar ':' = [0x3A] := by decide
      simp [commaFields, spell_quote, comma, separator]
    rw [written] at enough
    simp only [List.length_cons, List.length_append] at enough
    obtain ⟨fuel, rfl⟩ := Nat.exists_eq_add_one.mpr (show 0 < fuel by omega)
    have one := firstReads _ fuel (isOver_commaFields fields rest) (by omega)
    -- Behind the comma stands the name, and its quotation mark is the first byte.
    have next : nextName false (spell (commaFields ((name, document) :: fields)) ++ 0x7D :: rest)
        = .ok (some (spell (name.toList.flatMap escape) ++ 0x22 :: 0x3A
          :: (spell document.compactList ++ (spell (commaFields fields) ++ 0x7D :: rest))), []) := by
      rw [written]
      simp only [List.cons_append, List.append_assoc]
      rfl
    rw [members_of_member _ next one, ih otherReads _ (by omega), List.foldl_cons]

/-- A list is read if each of its members is. -/
theorem reads_array {items : List Json} (plain : ∀ item ∈ items, IsPlain depth item)
    (reads : ∀ item ∈ items, Reads depth item) : Reads (depth + 1) (.array items) := by
  intro rest fuel _ enough
  -- A printed list is its members between two brackets.
  have brackets : spell (Json.array items).compactList
      = 0x5B :: (spell (compactItems items) ++ [0x5D]) := by
    rw [compactList, List.cons_append, Utf8.spell_cons, Utf8.spell_append]
    rfl
  rw [brackets] at enough ⊢
  simp only [List.length_cons, List.length_append, List.length_nil] at enough
  obtain ⟨fuel, rfl⟩ := Nat.exists_eq_add_one.mpr (show 0 < fuel by omega)
  rw [List.cons_append, List.append_assoc, List.singleton_append, value_list]
  cases items with
  | nil =>
    obtain ⟨fuel, rfl⟩ := Nat.exists_eq_add_one.mpr (show 0 < fuel by omega)
    exact items_of_end rfl
  | cons item items =>
    -- Only the first member stands behind no comma.
    obtain ⟨first, others⟩ := List.forall_mem_cons.mp plain
    obtain ⟨firstReads, otherReads⟩ := List.forall_mem_cons.mp reads
    have positive := length_compact_pos first
    rw [compactItems_cons, Utf8.spell_append] at enough ⊢
    rw [List.length_append] at enough
    obtain ⟨fuel, rfl⟩ := Nat.exists_eq_add_one.mpr (show 0 < fuel by omega)
    have one := firstReads _ fuel (isOver_commaItems items rest) (by omega)
    rw [List.append_assoc, items_of_member (nextItem_first (begins_compact first _)) one,
      items_commaItems others otherReads [item] rest (by omega)]
    rfl

/-- An object is read if each of its members is and its names ascend. -/
theorem reads_object {fields : Fields} (ascends : fields.Ascends)
    (reads : ∀ field ∈ fields, Reads depth field.2) : Reads (depth + 1) (.object fields) := by
  intro rest fuel _ enough
  -- A printed object is its members between two braces.
  have braces : spell (Json.object fields).compactList
      = 0x7B :: (spell (compactFields fields) ++ [0x7D]) := by
    rw [compactList, List.cons_append, Utf8.spell_cons, Utf8.spell_append]
    rfl
  rw [braces] at enough ⊢
  simp only [List.length_cons, List.length_append, List.length_nil] at enough
  obtain ⟨fuel, rfl⟩ := Nat.exists_eq_add_one.mpr (show 0 < fuel by omega)
  rw [List.cons_append, List.append_assoc, List.singleton_append]
  show members depth true [] _ fuel = _
  cases fields with
  | nil =>
    obtain ⟨fuel, rfl⟩ := Nat.exists_eq_add_one.mpr (show 0 < fuel by omega)
    rfl
  | cons field fields =>
    obtain ⟨name, document⟩ := field
    obtain ⟨firstReads, otherReads⟩ := List.forall_mem_cons.mp reads
    simp only at firstReads
    have written : spell (compactFields ((name, document) :: fields))
        = 0x22 :: (spell (name.toList.flatMap escape) ++ 0x22 :: 0x3A
          :: (spell document.compactList ++ spell (commaFields fields))) := by
      have separator : String.utf8EncodeChar ':' = [0x3A] := by decide
      simp [compactFields_cons, spell_quote, separator]
    rw [written] at enough ⊢
    simp only [List.length_cons, List.length_append] at enough
    obtain ⟨fuel, rfl⟩ := Nat.exists_eq_add_one.mpr (show 0 < fuel by omega)
    -- The first member stands behind no comma, like that of a list.
    have one := firstReads _ fuel (isOver_commaFields fields rest) (by omega)
    have next : nextName true (0x22 :: (spell (name.toList.flatMap escape) ++ 0x22 :: 0x3A
          :: (spell document.compactList ++ spell (commaFields fields))) ++ 0x7D :: rest)
        = .ok (some (spell (name.toList.flatMap escape) ++ 0x22 :: 0x3A
          :: (spell document.compactList ++ (spell (commaFields fields) ++ 0x7D :: rest))), []) := by
      simp only [List.cons_append, List.append_assoc]
      rfl
    rw [members_of_member _ next one, members_commaFields otherReads _ rest (by omega)]
    -- The names ascend, so setting the members one after another changes nothing of their order.
    have order : Keyed.Ascends (([] : Fields) ++ (name, document) :: fields) := ascends
    have whole := Keyed.foldl_put order
    rw [List.foldl_cons, List.nil_append] at whole
    rw [whole]

end

/-- A printed document is read if it is read with any fuel at all. -/
theorem reads_of_value {depth : Nat} {document : Json}
    (positive : 0 < (spell document.compactList).length)
    (read : ∀ rest fuel, IsOver rest →
      value depth (spell document.compactList ++ rest) (fuel + 1) = .ok (document, rest)) :
    Reads depth document := by
  intro rest fuel past enough
  -- As many units of fuel as bytes are at least one.
  obtain ⟨fuel, rfl⟩ := Nat.exists_eq_add_one.mpr (show 0 < fuel by omega)
  exact read rest fuel past

/-- A printed document is read back inside as many lists and objects as it needs. -/
theorem reads_of_plain {depth : Nat} {document : Json} (plain : IsPlain depth document)
    (proper : IsProper document) : Reads depth document := by
  have positive := length_compact_pos plain
  -- The induction is on the document, by the levels at which its parts stand.
  induction plain with
  | null depth => exact reads_of_value positive fun _ _ _ => rfl
  | bool depth value => cases value <;> exact reads_of_value positive fun _ _ _ => rfl
  | string depth text => exact reads_of_value positive fun _ _ _ => value_quote text
  | int depth value =>
    cases proper with | int least most =>
    exact reads_of_value positive fun _ _ past => value_int least most past
  | array plain ih =>
    cases proper with | array all =>
    exact reads_array plain fun item member =>
      ih item member (all item member) (length_compact_pos (plain item member))
  | object plain ih =>
    cases proper with | object ascends all =>
    exact reads_object ascends fun field member =>
      ih field member (all field member) (length_compact_pos (plain field member))

/-- A document on one line is read back as that document, if its whole numbers fit, its names ascend,
and it holds no floating-point number and no more levels than are allowed. -/
theorem parse_compact {document : Json} (plain : IsPlain depthLimit document)
    (proper : IsProper document) : parse (Utf8.encode document.compact) = .ok document := by
  have bytes : Utf8.encode document.compact = spell document.compactList := by
    rw [Utf8.encode_eq_spell, compact, String.toList_ofList]
  -- The parser starts with more fuel than the document has bytes.
  have whole := reads_of_plain plain proper [] (2 * (spell document.compactList).length + 2) trivial
    (by omega)
  rw [List.append_nil] at whole
  rw [bytes]
  exact parse_of_value whole rfl

end EngineClient.Json
