import EngineClient.Proofs.Text.Blank
import EngineClient.Text.Digits

/-! Numbers of a fixed width, and decimals behind a point, are read back. -/

namespace EngineClient.Text

/-- Reads a number of a fixed number of decimal digits. -/
def readNumber? (width : Nat) (text : List Char) : Option (Nat × List Char) :=
  let digits := text.take width
  if digits.length = width ∧ digits.all Char.isDigit then
    some (Nat.ofDigitChars 10 digits 0, text.drop width)
  else none

/-- Takes off the character with which a text must begin. -/
def expect? (char : Char) : List Char → Option (List Char)
  | [] => none
  | first :: rest => if first = char then some rest else none

/-- Reads decimals behind a point, in units of the last of a number of places, or none. -/
def readFraction? (places : Nat) (text : List Char) : Option (Nat × List Char) :=
  match expect? '.' text with
  | none => some (0, text)
  | some rest =>
    let digits := rest.takeWhile Char.isDigit
    if 0 < digits.length ∧ digits.length ≤ places then
      some (Nat.ofDigitChars 10 digits 0 * Nat.pow 10 (places - digits.length),
        rest.drop digits.length)
    else none

/-- The character with which a text begins is taken off. -/
@[simp] theorem expect?_cons (char : Char) (rest : List Char) :
    expect? char (char :: rest) = some rest :=
  if_pos rfl

section

variable {width value : Nat}

/-- A number that fits a width is padded to it with zeros, which are digits and change nothing. -/
theorem padded_digits (positive : 0 < width) (fits : value < Nat.pow 10 width) :
    (padded width value).toList.length = width ∧
    (∀ char ∈ (padded width value).toList, char.isDigit = true) ∧
    Nat.ofDigitChars 10 (padded width value).toList 0 = value := by
  -- The number has no more digits than there is room for.
  have short : (Nat.toDigits 10 value).length ≤ width :=
    (Nat.length_toDigits_le_iff (by decide) positive).mpr fits
  simp only [padded, String.toList_ofList]
  refine ⟨?_, ?_, ?_⟩
  · rw [List.length_append, List.length_replicate]
    omega
  · intro char member
    rcases List.mem_append.mp member with zero | digit
    · rw [List.eq_of_mem_replicate zero]
      rfl
    · exact isDigit_toDigits char digit
  · rw [Nat.ofDigitChars_append, Nat.ofDigitChars_replicate_zero, Nat.mul_zero,
      Nat.ofDigitChars_ten_toDigits]

/-- A number of a fixed width is read back, whatever follows it. -/
theorem readNumber?_padded (positive : 0 < width) (fits : value < Nat.pow 10 width)
    (rest : List Char) :
    readNumber? width ((padded width value).toList ++ rest) = some (value, rest) := by
  obtain ⟨length, digits, number⟩ := padded_digits positive fits
  -- The number takes the whole width, and the rest stands behind it.
  have first : ((padded width value).toList ++ rest).take width = (padded width value).toList :=
    List.take_left' length
  have others : ((padded width value).toList ++ rest).drop width = rest := List.drop_left' length
  simp only [readNumber?, first, others, number]
  rw [if_pos ⟨length, List.all_eq_true.mpr digits⟩]

/-- Decimals are what is left of a number of a fixed width without the zeros at its end. -/
theorem exists_zeros (width value : Nat) :
    ∃ zeros, (padded width value).toList
      = (fractionDigits width value).toList ++ List.replicate zeros '0' := by
  refine ⟨((padded width value).toList.reverse.takeWhile (· = '0')).length, ?_⟩
  -- What is taken off at the end are zeros.
  have same : (padded width value).toList.reverse.takeWhile (· = '0')
      = List.replicate ((padded width value).toList.reverse.takeWhile (· = '0')).length '0' := by
    apply List.eq_replicate_of_mem
    intro char member
    simpa using List.mem_takeWhile_imp member
  rw [fractionDigits, String.toList_ofList, ← List.reverse_replicate, ← same, ← List.reverse_append,
    List.takeWhile_append_dropWhile, List.reverse_reverse]

/-- Decimals of a number that is not zero are read back, if no digit follows them. -/
theorem readFraction?_fractionDigits (positive : 0 < value) (fits : value < Nat.pow 10 width)
    {rest : List Char} (apart : ∀ char, rest.head? = some char → char.isDigit = false) :
    readFraction? width ('.' :: (fractionDigits width value).toList ++ rest)
      = some (value, rest) := by
  -- A number above zero needs a place.
  have wide : 0 < width := by
    rcases Nat.eq_zero_or_pos width with rfl | wide
    · have none : value < 1 := fits
      omega
    · exact wide
  obtain ⟨length, digits, number⟩ := padded_digits wide fits
  obtain ⟨zeros, whole⟩ := exists_zeros width value
  rw [whole] at length digits number
  rw [List.length_append, List.length_replicate] at length
  rw [Nat.ofDigitChars_append, Nat.ofDigitChars_replicate_zero] at number
  generalize (fractionDigits width value).toList = kept at length digits number ⊢
  -- Something is left, as zeros alone make up zero.
  have filled : 0 < kept.length := by
    apply List.length_pos_of_ne_nil
    rintro rfl
    rw [Nat.ofDigitChars_nil, Nat.mul_zero] at number
    omega
  have taken : (kept ++ rest).takeWhile Char.isDigit = kept := by
    have inside : ∀ char ∈ kept, char.isDigit = true :=
      fun char member => digits char (List.mem_append_left _ member)
    rw [List.takeWhile_append_of_pos inside]
    cases rest with
    | nil => simp
    | cons char rest => simp [apart char rfl]
  -- The places that are missing are those of the zeros that were taken off.
  have places : width - kept.length = zeros := by omega
  rw [readFraction?, List.cons_append, expect?_cons]
  simp only [taken, places, List.drop_left]
  rw [if_pos ⟨filled, by omega⟩, Nat.mul_comm]
  exact congrArg (fun value => some (value, rest)) number

end

end EngineClient.Text
