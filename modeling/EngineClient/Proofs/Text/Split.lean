import EngineClient.Text.Split
import Mathlib.Data.List.Basic

/-! Where texts are split: at the separator with none before it, or at the one with none behind it. -/

namespace EngineClient.Text

variable {separator : Char} {text before behind : List Char}

/-- Where a separator is missing there is no first one. -/
theorem splitFirst_of_not_mem (absent : separator ∉ text) : splitFirst separator text = none := by
  -- The induction is on the text; no character of it is the separator.
  induction text with
  | nil => rfl
  | cons char rest ih =>
    have different : char ≠ separator := Ne.symm (List.ne_of_not_mem_cons absent)
    have behind : separator ∉ rest := List.not_mem_of_not_mem_cons absent
    rw [splitFirst, if_neg different, ih behind]

/-- The first separator is the one with none before it. -/
theorem splitFirst_append (absent : separator ∉ before) (behind : List Char) :
    splitFirst separator (before ++ separator :: behind) = some (before, behind) := by
  -- The induction is on what stands before the separator.
  induction before with
  | nil => exact if_pos rfl
  | cons char before ih =>
    have different : char ≠ separator := Ne.symm (List.ne_of_not_mem_cons absent)
    have later : separator ∉ before := List.not_mem_of_not_mem_cons absent
    rw [List.cons_append, splitFirst, if_neg different, ih later]

/-- A text has no first separator exactly if it has none. -/
theorem splitFirst_eq_none_iff : splitFirst separator text = none ↔ separator ∉ text := by
  refine ⟨fun none present => ?_, splitFirst_of_not_mem⟩
  obtain ⟨before, behind, rfl, absent⟩ := List.eq_append_cons_of_mem present
  rw [splitFirst_append absent] at none
  cases none

/-- A text is split first where it holds the separator with none before it. -/
theorem splitFirst_eq_some_iff :
    splitFirst separator text = some (before, behind) ↔
      text = before ++ separator :: behind ∧ separator ∉ before := by
  refine ⟨fun split => ?_, fun ⟨whole, absent⟩ => whole ▸ splitFirst_append absent behind⟩
  -- A text with the separator has a first one, and any other is not split.
  by_cases present : separator ∈ text
  · obtain ⟨others, rest, rfl, absent⟩ := List.eq_append_cons_of_mem present
    rw [splitFirst_append absent] at split
    cases split
    exact ⟨rfl, absent⟩
  · rw [splitFirst_of_not_mem present] at split
    cases split

/-- A character behind a text is behind its first separator, or it is that separator itself. -/
theorem splitFirst_concat (separator char : Char) (text : List Char) :
    splitFirst separator (text ++ [char]) = match splitFirst separator text with
      | some (before, behind) => some (before, behind ++ [char])
      | none => if char = separator then some (text, []) else none := by
  induction text with
  | nil => rfl
  | cons first rest ih =>
    rw [List.cons_append, splitFirst, splitFirst, ih]
    split
    · rfl
    · -- The first character stands before the separator, wherever that is.
      cases splitFirst separator rest with
      | some found => rfl
      | none => by_cases own : char = separator <;> simp [own]

/-- The last separator is the first one from behind. -/
theorem splitLast_eq_reverse (separator : Char) (text : List Char) :
    splitLast separator text = (splitFirst separator text.reverse).map fun (behind, before) =>
      (before.reverse, behind.reverse) := by
  -- The induction is on the text, whose first character is the last one reversed.
  induction text with
  | nil => rfl
  | cons char rest ih =>
    rw [splitLast, ih, List.reverse_cons, splitFirst_concat]
    cases splitFirst separator rest.reverse with
    | some found => simp
    | none => by_cases own : char = separator <;> simp [own]

/-- A text has no last separator exactly if it has none. -/
theorem splitLast_eq_none_iff : splitLast separator text = none ↔ separator ∉ text := by
  rw [splitLast_eq_reverse, Option.map_eq_none_iff, splitFirst_eq_none_iff, List.mem_reverse]

/-- A text is split last where it holds the separator with none behind it. -/
theorem splitLast_eq_some_iff :
    splitLast separator text = some (before, behind) ↔
      text = before ++ separator :: behind ∧ separator ∉ behind := by
  -- The last separator is the first one of the reversed text.
  have reversed : text.reverse = behind.reverse ++ separator :: before.reverse ↔
      text = before ++ separator :: behind := by
    rw [← List.reverse_inj]
    simp
  rw [splitLast_eq_reverse, Option.map_eq_some_iff, ← reversed, ← List.mem_reverse,
    ← splitFirst_eq_some_iff]
  constructor
  · rintro ⟨⟨_, _⟩, found, same⟩
    cases same
    rw [found, List.reverse_reverse, List.reverse_reverse]
  · intro found
    exact ⟨_, found, by simp⟩

/-- The last separator is the one with none behind it. -/
theorem splitLast_append (absent : separator ∉ behind) (before : List Char) :
    splitLast separator (before ++ separator :: behind) = some (before, behind) :=
  splitLast_eq_some_iff.mpr ⟨rfl, absent⟩

end EngineClient.Text
