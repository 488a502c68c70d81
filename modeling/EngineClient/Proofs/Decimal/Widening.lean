import EngineClient.Decimal.Binary
import Mathlib.Algebra.Group.Nat.Defs

/-! What is finite in the thirty-two-bit format is finite as a double, and nothing else. -/

namespace EngineClient

/-- A value that is a number. -/
def FloatValue.IsFinite : FloatValue → Prop
  | .finite .. => True
  | _ => False

namespace FloatFormat

/-- Only the greatest exponent field marks what is no number. -/
theorem isFinite_decode_iff (format : FloatFormat) (bits : Nat) :
    (format.decode bits).IsFinite ↔
      bits / 2 ^ format.fraction % 2 ^ format.exponent ≠ 2 ^ format.exponent - 1 := by
  -- The greatest exponent stands for what is not finite, and all others for numbers.
  simp only [decode, Nat.pow_eq]
  split
  · rename_i greatest
    refine iff_of_false ?_ (not_not_intro greatest)
    split <;> exact id
  · rename_i smaller
    refine iff_of_true ?_ smaller
    split <;> trivial

/-- A fraction counted in units that are large enough for it is a small number of them. -/
theorem inUnits_quotient_lt {num den places : Nat} {exponent : Int} (positive : 0 < den)
    (large : (num.log2 : Int) + 1 ≤ den.log2 + exponent + places) :
    (inUnits num den exponent).1 / (inUnits num den exponent).2 < 2 ^ places := by
  have above : num < 2 ^ (num.log2 + 1) := Nat.lt_log2_self
  have below : 2 ^ den.log2 ≤ den := Nat.log2_self_le (Nat.pos_iff_ne_zero.mp positive)
  -- A power of two goes to the side on which it is positive.
  cases exponent with
  | ofNat up =>
    simp only [inUnits, Nat.pow_eq]
    rw [Nat.div_lt_iff_lt_mul (Nat.mul_pos positive (Nat.two_pow_pos up))]
    have fits : num.log2 + 1 ≤ places + (den.log2 + up) := by
      simp only [Int.ofNat_eq_natCast] at large
      omega
    calc num < 2 ^ (num.log2 + 1) := above
      _ ≤ 2 ^ (places + (den.log2 + up)) := Nat.pow_le_pow_right Nat.zero_lt_two fits
      _ = 2 ^ places * (2 ^ den.log2 * 2 ^ up) := by rw [Nat.pow_add, Nat.pow_add]
      _ ≤ 2 ^ places * (den * 2 ^ up) := Nat.mul_le_mul_left _ (Nat.mul_le_mul_right _ below)
  | negSucc down =>
    simp only [inUnits, Nat.pow_eq]
    rw [Nat.div_lt_iff_lt_mul positive]
    have fits : num.log2 + 1 + (down + 1) ≤ places + den.log2 := by omega
    calc num * 2 ^ (down + 1)
        < 2 ^ (num.log2 + 1) * 2 ^ (down + 1) :=
          Nat.mul_lt_mul_of_pos_right above (Nat.two_pow_pos _)
      _ = 2 ^ (num.log2 + 1 + (down + 1)) := (Nat.pow_add ..).symm
      _ ≤ 2 ^ (places + den.log2) := Nat.pow_le_pow_right Nat.zero_lt_two fits
      _ = 2 ^ places * 2 ^ den.log2 := Nat.pow_add ..
      _ ≤ 2 ^ places * den := Nat.mul_le_mul_left _ below

/-- The logarithm of zero is none of its own, but it is small. -/
theorem log2_lt_of_lt {number places : Nat} (positive : 0 < places) (small : number < 2 ^ places) :
    number.log2 < places := by
  by_cases zero : number = 0
  · rw [zero, Nat.log2_zero]
    exact positive
  · exact (Nat.log2_lt zero).mpr small

/-- Rounding adds one at most. -/
theorem roundQuotient_le (num den : Nat) : roundQuotient num den ≤ num / den + 1 := by
  unfold roundQuotient
  dsimp only
  split <;> omega

/-- A fraction far below the greatest double is not rounded to infinity. -/
theorem roundRatio_lt {num den : Nat} (positive : 0 < den)
    (small : (num.log2 : Int) ≤ den.log2 + 1020) :
    double.roundRatio num den < double.infinityBits := by
  have infinity : double.infinityBits = 2047 * 2 ^ 52 := rfl
  have least : double.leastExponent = -1074 := rfl
  have one : Nat.pow 2 double.fraction = 2 ^ 52 := rfl
  have places : (double.fraction : Int) = 52 := rfl
  -- Nothing rounds to zero.
  unfold roundRatio
  split
  · rw [infinity]
    exact Nat.mul_pos (by decide) (Nat.two_pow_pos 52)
  · simp only [least, one, places]
    generalize chosen : max (-1074) _ = exponent
    -- Whichever of the two guesses is taken, it is off by one place at most.
    have near : (num.log2 : Int) - den.log2 - 53 ≤ exponent ∧ exponent ≤ 968 := by
      rw [← chosen]
      split <;> omega
    -- So the quotient has few digits, and rounding adds one at most.
    have few : (inUnits num den exponent).1 / (inUnits num den exponent).2 < 2 ^ 54 :=
      inUnits_quotient_lt positive (by omega)
    have rounded := roundQuotient_le (inUnits num den exponent).1 (inUnits num den exponent).2
    rw [infinity]
    refine Nat.lt_of_le_of_lt (Nat.min_le_left _ _) ?_
    have field : (exponent - -1074).toNat * 2 ^ 52 ≤ 2042 * 2 ^ 52 :=
      Nat.mul_le_mul_right _ (by omega)
    omega

/-- So is a number far below the greatest double, under either sign. -/
theorem encode_finite_lt (negative : Bool) {significand : Nat} {exponent : Int}
    (small : (significand.log2 : Int) + exponent ≤ 1020) :
    ∃ magnitude < double.infinityBits,
      double.encode (.finite negative significand exponent) = double.signed negative magnitude := by
  -- The significand is scaled up, or divided by a power of two.
  cases exponent with
  | ofNat up =>
    refine ⟨_, roundRatio_lt Nat.one_pos ?_, rfl⟩
    have product : significand * 2 ^ up < 2 ^ (significand.log2 + 1 + up) := by
      rw [Nat.pow_add]
      exact Nat.mul_lt_mul_of_pos_right Nat.lt_log2_self (Nat.two_pow_pos up)
    have bound := log2_lt_of_lt (by omega) product
    simp only [Nat.pow_eq, Int.ofNat_eq_natCast] at small ⊢
    omega
  | negSucc down =>
    refine ⟨_, roundRatio_lt (Nat.two_pow_pos _) ?_, rfl⟩
    rw [Nat.log2_two_pow]
    omega

/-- A magnitude below that of infinity stays finite under either sign. -/
theorem isFinite_signed {magnitude : Nat} (negative : Bool)
    (small : magnitude < double.infinityBits) :
    (double.decode (double.signed negative magnitude)).IsFinite := by
  have infinity : double.infinityBits = 2047 * 2 ^ 52 := rfl
  have sign : double.signBit = 2 ^ 63 := rfl
  have fraction : double.fraction = 52 := rfl
  have exponent : double.exponent = 11 := rfl
  rw [isFinite_decode_iff, fraction, exponent, signed, sign]
  -- The sign is above the exponent field, which the magnitude does not fill.
  cases negative <;> simp only [if_true, Bool.false_eq_true, if_false] <;> omega

/-- A single that is a number is far below the greatest double. -/
theorem decode_single_small {bits significand : Nat} {negative : Bool} {exponent : Int}
    (decoded : single.decode bits = .finite negative significand exponent) :
    (significand.log2 : Int) + exponent ≤ 1020 := by
  have fraction : single.fraction = 23 := rfl
  have width : single.exponent = 8 := rfl
  have least : single.leastExponent = -149 := rfl
  simp only [decode, fraction, width, least, Nat.pow_eq] at decoded
  split at decoded
  · split at decoded <;> cases decoded
  · -- With its leading bit or without it, the significand has twenty-four bits.
    have places (few : significand < 2 ^ 24) : significand.log2 < 24 :=
      log2_lt_of_lt (by decide) few
    split at decoded <;> cases decoded <;> have := places (by omega) <;> omega

end FloatFormat

namespace Double

open FloatFormat

/-- A double is finite if what its bits stand for is. -/
theorem isFinite_iff (value : Double) : value.isFinite = true ↔ value.value.IsFinite := by
  unfold isFinite
  cases value.value <;> simp [FloatValue.IsFinite]

/-- Bits beyond the sixty-fourth do not matter. -/
theorem isFinite_ofNat_iff (bits : Nat) :
    (⟨UInt64.ofNat bits⟩ : Double).isFinite = true ↔ (FloatFormat.double.decode bits).IsFinite := by
  have fraction : FloatFormat.double.fraction = 52 := rfl
  have exponent : FloatFormat.double.exponent = 11 := rfl
  -- Bits beyond the sixty-fourth are none of the fields.
  rw [isFinite_iff, value, isFinite_decode_iff, isFinite_decode_iff, UInt64.toNat_ofNat',
    fraction, exponent]
  omega

/-- A single as a double is finite exactly if it is a number. -/
theorem isFinite_ofSingle_iff (bits : Nat) :
    (ofValue (single.decode bits)).isFinite = true ↔ (single.decode bits).IsFinite := by
  rw [ofValue, isFinite_ofNat_iff]
  -- A finite single number is small enough for a double one, and the others keep their kind.
  cases decoded : single.decode bits with
  | finite negative significand exponent =>
    obtain ⟨magnitude, small, encoded⟩ := encode_finite_lt negative (decode_single_small decoded)
    rw [encoded]
    exact iff_of_true (isFinite_signed negative small) trivial
  | infinite negative => cases negative <;> exact Iff.rfl
  | nan => exact Iff.rfl

end Double

end EngineClient
