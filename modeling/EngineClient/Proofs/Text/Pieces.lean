import Mathlib.Data.List.Basic

/-! Texts with colons between their pieces, two of which may stand side by side once. -/

namespace EngineClient.Text

/-- The pieces between colons; there are none in an empty text. -/
def pieces (text : List Char) : List (List Char) :=
  if text = [] then [] else text.splitOn ':'

/-- What stands before and behind the first two colons that stand side by side. -/
def splitGap : List Char → Option (List Char × List Char)
  | [] => none
  | char :: rest =>
    if char = ':' ∧ rest.head? = some ':' then some ([], rest.tail)
    else (splitGap rest).map fun found => (char :: found.1, found.2)

/-- Items are read back one by one if each of them is. -/
theorem mapM_map_of_read {α β : Type} {read : β → Option α} {write : α → β} {items : List α}
    (inverse : ∀ item ∈ items, read (write item) = some item) :
    (items.map write).mapM read = some items := by
  -- The induction is on the items.
  induction items with
  | nil => rfl
  | cons item items ih =>
    obtain ⟨here, later⟩ := List.forall_mem_cons.mp inverse
    rw [List.map_cons, List.mapM_cons, here, ih later]
    rfl

/-- Items that are read back from their texts have different texts. -/
theorem write_inj_of_read {α : Type} {read : List Char → Option α} {write : α → String}
    (inverse : ∀ item, read (write item).toList = some item) {item other : α} :
    write item = write other ↔ item = other := by
  constructor
  · intro same
    -- What is written in the same way is read back as the same.
    have back := inverse item
    rw [same, inverse other] at back
    exact (Option.some.inj back).symm
  · exact congrArg write

/-- A member of lists that are joined is one of a list or of the separator between them. -/
theorem mem_intercalate {α : Type} {separator : List α} {item : α} {lists : List (List α)}
    (member : item ∈ separator.intercalate lists) : item ∈ separator ∨ ∃ list ∈ lists, item ∈ list := by
  -- The induction is on the lists, of which only the last has no separator behind it.
  induction lists with
  | nil => cases member
  | cons list lists ih => cases lists with
    | nil =>
      rw [List.intercalate_singleton] at member
      exact .inr ⟨list, List.mem_cons_self, member⟩
    | cons other lists =>
      rw [List.intercalate_cons_cons, List.append_assoc, List.mem_append, List.mem_append] at member
      rcases member with front | between | behind
      · exact .inr ⟨list, List.mem_cons_self, front⟩
      · exact .inl between
      · exact (ih behind).imp_right fun ⟨list, listed, inside⟩ =>
          ⟨list, List.mem_cons_of_mem _ listed, inside⟩

/-- Pieces between which the colons can be found again. -/
def AreApart (parts : List (List Char)) : Prop :=
  ∀ piece ∈ parts, piece ≠ [] ∧ ':' ∉ piece

section

variable {parts : List (List Char)}

/-- Pieces that are joined are told apart again. -/
theorem pieces_joined (apart : AreApart parts) :
    pieces ([':'].intercalate parts) = parts := by
  cases parts with
  | nil => rfl
  | cons part parts =>
    have split := List.splitOn_intercalate ':' (fun piece member => (apart piece member).2)
      (List.cons_ne_nil part parts)
    have filled : [':'].intercalate (part :: parts) ≠ [] := by
      intro empty
      rw [empty] at split
      -- An empty text has one piece, which is empty.
      obtain ⟨rfl, _⟩ := List.cons.inj split
      exact (apart [] List.mem_cons_self).1 rfl
    rw [pieces, if_neg filled, split]

/-- Nothing without a colon holds a gap. -/
theorem splitGap_append {piece : List Char} (absent : ':' ∉ piece) (rest : List Char) :
    splitGap (piece ++ rest) = (splitGap rest).map fun found => (piece ++ found.1, found.2) := by
  induction piece with
  | nil => simp
  | cons char piece ih =>
    -- No character of the piece is a colon, so the gap is behind it.
    have other : ¬(char = ':' ∧ (piece ++ rest).head? = some ':') :=
      fun both => List.ne_of_not_mem_cons absent both.1.symm
    rw [List.cons_append, splitGap, if_neg other, ih (List.not_mem_of_not_mem_cons absent),
      Option.map_map]
    rfl

/-- Nor do pieces that are joined. -/
theorem splitGap_joined (apart : AreApart parts) (rest : List Char) :
    splitGap ([':'].intercalate parts ++ rest)
      = (splitGap rest).map fun found => ([':'].intercalate parts ++ found.1, found.2) := by
  -- The induction is on the pieces.
  induction parts with
  | nil => simp
  | cons part parts ih =>
    obtain ⟨⟨_, absent⟩, others⟩ := List.forall_mem_cons.mp apart
    cases parts with
    | nil =>
      rw [List.intercalate_singleton]
      exact splitGap_append absent rest
    | cons next parts =>
      -- The colon in front of the next piece stands alone, as that piece begins with something else.
      obtain ⟨⟨filled, absent'⟩, _⟩ := List.forall_mem_cons.mp others
      obtain ⟨char, tail, rfl⟩ := List.exists_cons_of_ne_nil filled
      have lone : ([':'].intercalate ((char :: tail) :: parts) ++ rest).head? ≠ some ':' := by
        have other : char ≠ ':' := (List.ne_of_not_mem_cons absent').symm
        cases parts <;> simpa using other
      rw [List.intercalate_cons_cons, List.append_assoc, List.append_assoc, splitGap_append absent,
        List.singleton_append, splitGap, if_neg (fun both => lone both.2), ih others]
      cases splitGap rest <;> simp

end

end EngineClient.Text
