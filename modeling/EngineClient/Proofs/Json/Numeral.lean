import EngineClient.Json.Numeral
import EngineClient.Proofs.Text.Unsigned
import EngineClient.Proofs.Text.Utf8
import Mathlib.Tactic.IntervalCases

/-! A whole number of sixty-four bits is read back as that number. -/

namespace EngineClient.Json

open Utf8 (spell)

/-- Bytes with which a value that stands before them is over. -/
def IsOver : Bytes → Prop
  | [] => True
  | byte :: _ => byte = 0x2C ∨ byte = 0x5D ∨ byte = 0x7D

section

variable {char : Char} (digit : char.isDigit = true)
include digit

/-- A decimal digit has one of ten codes. -/
theorem digit_bounds : 0x30 ≤ char.toNat ∧ char.toNat ≤ 0x39 :=
  Char.isDigit_iff_toNat.mp digit

/-- A decimal digit is one byte. -/
theorem utf8EncodeChar_digit : String.utf8EncodeChar char = [UInt8.ofNat char.toNat] := by
  have bounds := digit_bounds digit
  exact Utf8.utf8EncodeChar_ascii (by omega)

/-- The byte of a decimal digit is its code. -/
theorem toNat_digitByte : (UInt8.ofNat char.toNat).toNat = char.toNat := by
  have bounds := digit_bounds digit
  exact Utf8.toNat_byte _ (by omega)

/-- The byte of a decimal digit is taken for one. -/
theorem isDigit_digitByte : isDigit (UInt8.ofNat char.toNat) = true := by
  rw [isDigit, Bool.and_eq_true, decide_eq_true_iff, decide_eq_true_iff, UInt8.le_iff_toNat_le,
    UInt8.le_iff_toNat_le, toNat_digitByte digit]
  exact digit_bounds digit

/-- The byte of a decimal digit has its value. -/
theorem digitValue_digitByte : digitValue (UInt8.ofNat char.toNat) = char.toNat - '0'.toNat := by
  rw [digitValue, toNat_digitByte digit]
  rfl

end

/-- All digits of a number but that of zero begin with another one than zero. -/
theorem toDigits_head {value : Nat} (positive : 0 < value) :
    ∃ first others, Nat.toDigits 10 value = first :: others ∧ first ≠ '0' := by
  -- The induction is on the digits: the last one is the remainder, the others are the quotient's.
  induction value using Nat.strongRecOn with
  | ind value ih =>
    by_cases short : value < 10
    · refine ⟨value.digitChar, [], Nat.toDigits_of_lt_base short, ?_⟩
      -- A single digit is zero only for zero.
      interval_cases value <;> decide
    · obtain ⟨first, others, quotient, nonzero⟩ := ih (value / 10) (by omega) (by omega)
      refine ⟨first, others ++ [(value % 10).digitChar], ?_, nonzero⟩
      rw [Nat.toDigits_of_base_le (by decide) (by omega), quotient, List.cons_append]

section

variable {digits : List Char} (all : ∀ char ∈ digits, char.isDigit = true)
include all

/-- Digits are written as digits. -/
theorem isDigit_of_mem_spell {byte : UInt8} (member : byte ∈ spell digits) :
    isDigit byte = true := by
  -- Each byte is the one of some digit.
  obtain ⟨char, listed, inside⟩ := List.mem_flatMap.mp member
  rw [utf8EncodeChar_digit (all char listed), List.mem_singleton] at inside
  rw [inside]
  exact isDigit_digitByte (all char listed)

/-- Digits are taken in as the number that they make up, if that fits. -/
theorem absorb_digits {read : Nat} (fits : Nat.ofDigitChars 10 digits read ≤ Unsigned.max64) :
    absorb read (spell digits) = (Nat.ofDigitChars 10 digits read, 0) := by
  induction digits generalizing read with
  | nil => rfl
  | cons char digits ih =>
    obtain ⟨first, others⟩ := List.forall_mem_cons.mp all
    rw [Nat.ofDigitChars_cons] at fits ⊢
    -- A digit is taken in as it is in reading digits of any kind.
    have grown : read * 10 + digitValue (UInt8.ofNat char.toNat)
        = 10 * read + (char.toNat - '0'.toNat) := by
      rw [digitValue_digitByte first, Nat.mul_comm]
    -- The number only grows, so it fits at every digit if it does at the last.
    have below := Unsigned.le_ofDigitChars digits (10 * read + (char.toNat - '0'.toNat))
    rw [Utf8.spell_cons, utf8EncodeChar_digit first, List.singleton_append, absorb]
    simp only [grown, if_pos (Nat.le_trans below fits)]
    exact ih others fits

end

section

variable {rest : Bytes} (past : IsOver rest)
include past

/-- What stands behind a value does not begin with a digit. -/
theorem IsOver.takeWhile_eq : rest.takeWhile isDigit = [] ∧ rest.dropWhile isDigit = rest := by
  cases rest with
  | nil => exact ⟨rfl, rfl⟩
  | cons byte rest =>
    -- Neither a comma nor a closing bracket or brace is a digit.
    have other : isDigit byte = false := by
      rcases past with rfl | rfl | rfl <;> rfl
    rw [List.takeWhile_cons, List.dropWhile_cons, other]
    exact ⟨rfl, rfl⟩

/-- A whole number that is over is no more than its digits. -/
theorem afterWhole_of_over (positive : Bool) (significand : Nat) :
    afterWhole positive significand 0 rest
      = if positive then .ok (.int significand, rest)
        else if significand = 0 ∨ Nat.pow 2 63 < significand then
          .ok (.double (Double.ofNat significand).negate, rest)
        else .ok (.int (-significand), rest) := by
  -- What follows is no dot and no exponent.
  cases rest with
  | nil => rfl
  | cons byte rest => rcases past with rfl | rfl | rfl <;> rfl

/-- The digits of a number that fits are read as that number. -/
theorem numeral_toDigits (positive : Bool) {value : Nat} (fits : value ≤ Unsigned.max64) :
    numeral positive (spell (Nat.toDigits 10 value) ++ rest) = afterWhole positive value 0 rest := by
  obtain ⟨none, all⟩ := past.takeWhile_eq
  by_cases zero : value = 0
  · -- Zero is the only number that begins with the digit zero, and it is no longer than that.
    subst zero
    have single : spell (Nat.toDigits 10 0) = [0x30] := by decide
    rw [single, List.singleton_append]
    cases rest with
    | nil => rfl
    | cons byte rest => rcases past with rfl | rfl | rfl <;> rfl
  · obtain ⟨first, others, written, nonzero⟩ := toDigits_head (Nat.pos_of_ne_zero zero)
    have digits : ∀ char ∈ first :: others, char.isDigit = true := by
      intro char member
      exact Nat.isDigit_of_mem_toDigits (by decide) (by decide) (written ▸ member)
    obtain ⟨firstDigit, otherDigits⟩ := List.forall_mem_cons.mp digits
    -- The number is that of its first digit and of the others behind it.
    have whole : Nat.ofDigitChars 10 others (first.toNat - '0'.toNat) = value := by
      have read := Nat.ofDigitChars_ten_toDigits (n := value)
      rw [written, Nat.ofDigitChars_cons, Nat.mul_zero, Nat.zero_add] at read
      exact read
    -- A byte with the code of zero would be the digit zero.
    have other : UInt8.ofNat first.toNat ≠ 0x30 := by
      intro same
      have code := congrArg UInt8.toNat same
      rw [toNat_digitByte firstDigit] at code
      exact nonzero (Char.toNat_inj.mp code)
    -- The digits behind the first one are all that are taken in, as what follows is none.
    have isDigits : ∀ byte ∈ spell others, isDigit byte = true :=
      fun byte => isDigit_of_mem_spell otherDigits
    have taken : (spell others ++ rest).takeWhile isDigit = spell others := by
      rw [List.takeWhile_append_of_pos isDigits, none, List.append_nil]
    have left : (spell others ++ rest).dropWhile isDigit = rest := by
      rw [List.dropWhile_append_of_pos isDigits, all]
    have absorbed := absorb_digits otherDigits (whole.symm ▸ fits)
    rw [whole] at absorbed
    -- So the first digit opens the number, and what is left of it is absorbed.
    rw [written, Utf8.spell_cons, utf8EncodeChar_digit firstDigit, List.append_assoc,
      List.singleton_append, numeral]
    · simp only [if_pos (isDigit_digitByte firstDigit), taken, left, digitValue_digitByte firstDigit,
        absorbed]
    · exact other

/-- A number that is not negative and fits is read back. -/
theorem numeral_natural {size : Nat} (fits : size ≤ Unsigned.max64) :
    numeral true (spell (Nat.toDigits 10 size) ++ rest) = .ok (.int size, rest) := by
  rw [numeral_toDigits past true fits, afterWhole_of_over past]
  rfl

/-- A negative number that fits is read back behind its sign. -/
theorem numeral_negative {below : Nat} (fits : below + 1 ≤ Nat.pow 2 63) :
    numeral false (spell (Nat.toDigits 10 (below + 1)) ++ rest)
      = .ok (.int (Int.negSucc below), rest) := by
  have room : Nat.pow 2 63 ≤ Unsigned.max64 := by decide
  -- Only minus zero and what lies below the least number become doubles.
  have whole : ¬(below + 1 = 0 ∨ Nat.pow 2 63 < below + 1) := by omega
  rw [numeral_toDigits past false (Nat.le_trans fits room), afterWhole_of_over past,
    if_neg Bool.false_ne_true, if_neg whole]
  rfl

end

/-- A whole number is written with its digits, behind a sign if it is negative. -/
theorem toList_render_int (value : Int) :
    (Number.int value).render.toList = match value with
      | .ofNat size => Nat.toDigits 10 size
      | .negSucc below => '-' :: Nat.toDigits 10 (below + 1) := by
  -- A number below zero has a sign before its digits.
  cases value with
  | ofNat size =>
    show (Nat.repr size).toList = _
    rw [Nat.toList_repr]
  | negSucc below =>
    show ("-" ++ Nat.repr (below + 1)).toList = _
    rw [String.toList_append, Nat.toList_repr]
    rfl

end EngineClient.Json
