import EngineClient.Text.Unsigned
import Mathlib.Data.List.Basic

/-! Which texts are read as unsigned numbers, and as which ones. -/

namespace EngineClient.Unsigned

/-- At least one digit, which make up a value together. -/
structure IsDigits (digits : List Char) (value : Nat) : Prop where
  filled : digits ≠ []
  all : ∀ char ∈ digits, char.isDigit = true
  value : Nat.ofDigitChars 10 digits 0 = value

/-- The spellings of a number: digits, with any number of zeros in front, and a plus sign or none. -/
inductive Spells : List Char → Nat → Prop
  | bare {digits : List Char} {value : Nat} : IsDigits digits value → Spells digits value
  | signed {digits : List Char} {value : Nat} : IsDigits digits value → Spells ('+' :: digits) value

/-- A number does not shrink when digits are appended to it. -/
theorem le_ofDigitChars (digits : List Char) (read : Nat) :
    read ≤ Nat.ofDigitChars 10 digits read := by
  -- The induction is on the digits, each of which makes the number ten times as great or more.
  induction digits generalizing read with
  | nil => exact Nat.le_refl _
  | cons char digits ih =>
    have grown := ih (10 * read + (char.toNat - '0'.toNat))
    rw [Nat.ofDigitChars_cons]
    omega

section

variable {bound value : Nat} {chars : List Char}

/-- Digits are read onto a number exactly if that gives a number within the bound. -/
theorem readDigits_eq_ok_iff {read : Nat} (fits : read ≤ bound) :
    readDigits bound read chars = .ok value ↔
      (∀ char ∈ chars, char.isDigit = true) ∧ Nat.ofDigitChars 10 chars read = value ∧
        value ≤ bound := by
  -- The number grows from digit to digit, so none of the steps leaves a bound that the end keeps.
  induction chars generalizing read with
  | nil =>
    simp only [readDigits, Except.ok.injEq, List.not_mem_nil, false_implies, implies_true, true_and,
      Nat.ofDigitChars_nil]
    exact ⟨fun same => ⟨same, same ▸ fits⟩, fun both => both.1⟩
  | cons char rest ih =>
    have step : Nat.ofDigitChars 10 (char :: rest) read
        = Nat.ofDigitChars 10 rest (read * 10 + (char.toNat - '0'.toNat)) := by
      rw [Nat.ofDigitChars_cons, Nat.mul_comm]
    rw [readDigits, List.forall_mem_cons, step]
    split
    · rename_i digit
      dsimp only
      split
      · rename_i grown
        rw [ih grown]
        simp [digit]
      · rename_i large
        -- A number above the bound stays above it, whatever digits follow.
        have least := le_ofDigitChars rest (read * 10 + (char.toNat - '0'.toNat))
        exact ⟨fun read => (nomatch read), fun ⟨_, same, most⟩ => absurd most (by omega)⟩
    · rename_i other
      exact ⟨fun read => (nomatch read), fun ⟨all, _⟩ => absurd all.1 other⟩

/-- What begins with a plus sign are no digits. -/
theorem not_isDigits_plus (rest : List Char) : ¬IsDigits ('+' :: rest) value := by
  intro digits
  exact absurd (digits.all '+' List.mem_cons_self) (by decide)

/-- Digits alone are read from zero on. -/
theorem readDigits_zero_eq_ok_iff (filled : chars ≠ []) :
    readDigits bound 0 chars = .ok value ↔ IsDigits chars value ∧ value ≤ bound := by
  rw [readDigits_eq_ok_iff (Nat.zero_le bound)]
  exact ⟨fun ⟨all, same, most⟩ => ⟨⟨filled, all, same⟩, most⟩,
    fun ⟨digits, most⟩ => ⟨digits.all, digits.value, most⟩⟩

/-- A number is read exactly of its spellings, if it is within the bound. -/
theorem parseList_eq_ok_iff :
    parseList bound chars = .ok value ↔ Spells chars value ∧ value ≤ bound := by
  -- The two spellings exclude each other, as a plus sign is no digit.
  have bare (unsigned : ∀ rest, chars ≠ '+' :: rest) :
      Spells chars value ↔ IsDigits chars value := by
    refine ⟨fun spells => ?_, .bare⟩
    cases spells with
    | bare digits => exact digits
    | signed digits => exact (unsigned _ rfl).elim
  have signed (rest : List Char) : Spells ('+' :: rest) value ↔ IsDigits rest value := by
    refine ⟨fun spells => ?_, .signed⟩
    cases spells with
    | bare digits => exact (not_isDigits_plus rest digits).elim
    | signed digits => exact digits
  -- Nothing and a lone sign are turned down, and the rest is read as digits.
  unfold parseList
  split
  · rw [bare (fun rest same => (nomatch same))]
    exact ⟨fun read => (nomatch read), fun both => (both.1.filled rfl).elim⟩
  · rw [signed]
    exact ⟨fun read => (nomatch read), fun both => (both.1.filled rfl).elim⟩
  · rename_i rest lone
    rw [signed, readDigits_zero_eq_ok_iff lone]
  · rename_i filled lone unsigned
    rw [bare unsigned, readDigits_zero_eq_ok_iff filled]

end

end EngineClient.Unsigned
