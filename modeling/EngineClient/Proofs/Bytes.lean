import EngineClient.Bytes

/-! Numbers written as bytes, and read back from them. -/

namespace EngineClient.Bytes

/-- A number in a width of bytes, least significant first; what does not fit is left out. -/
def ofNat : Nat → Nat → Bytes
  | 0, _ => []
  | width + 1, value => UInt8.ofNat value :: ofNat width (value / 256)

/-- A number takes up its width. -/
@[simp] theorem length_ofNat (width value : Nat) : (ofNat width value).length = width := by
  induction width generalizing value with
  | zero => rfl
  | succ width ih => rw [ofNat, List.length_cons, ih]

/-- A number that fits its width is read back from it. -/
theorem toNat_ofNat {width value : Nat} (fits : value < Nat.pow 256 width) :
    toNat (ofNat width value) = value := by
  -- The last digit is the remainder, and the other digits are those of the quotient.
  induction width generalizing value with
  | zero =>
    have : value = 0 := by simpa using fits
    rw [this]
    rfl
  | succ width ih =>
    have rest : value / 256 < Nat.pow 256 width := by
      rw [Nat.div_lt_iff_lt_mul (by decide)]
      exact fits
    rw [ofNat, toNat, ih rest, UInt8.toNat_ofNat']
    exact Nat.mod_add_div value 256

/-- A number that leaves the sign bit free is read back with its sign. -/
theorem toInt_ofNat {width value : Nat} (fits : 2 * value < Nat.pow 256 width) :
    toInt (ofNat width value) = value := by
  -- Below half of the modulus a number is its own remainder in two's complement.
  have modulus : Nat.pow 2 (8 * width) = Nat.pow 256 width := Nat.pow_mul 2 8 width
  have positive : 0 < Nat.pow 256 width := Nat.pow_pos (by decide)
  rw [toInt, toNat_ofNat (by omega), length_ofNat, modulus]
  apply Int.bmod_eq_of_le <;> omega

/-- Bytes hold a number that fits their width. -/
theorem toNat_lt (bytes : Bytes) : toNat bytes < Nat.pow 256 bytes.length := by
  induction bytes with
  | nil => exact Nat.one_pos
  | cons byte rest ih =>
    -- The last digit adds less than one to the number of the other digits.
    have digit := byte.toNat_lt
    have power : Nat.pow 256 (rest.length + 1) = Nat.pow 256 rest.length * 256 := rfl
    rw [toNat, List.length_cons, power]
    omega

/-- The number that bytes hold is written as these bytes. -/
theorem ofNat_toNat (bytes : Bytes) : ofNat bytes.length (toNat bytes) = bytes := by
  -- The induction is on the bytes, the least of which comes first.
  induction bytes with
  | nil => rfl
  | cons byte rest ih =>
    -- The first byte is the remainder, and the others are those of the quotient.
    have digit := byte.toNat_lt
    have quotient : (byte.toNat + 256 * toNat rest) / 256 = toNat rest := by omega
    have first : UInt8.ofNat (byte.toNat + 256 * toNat rest) = byte := by
      apply UInt8.toNat_inj.mp
      rw [UInt8.toNat_ofNat']
      omega
    rw [List.length_cons, toNat, ofNat, quotient, ih, first]

/-- A number that is not below zero is the same with and without a sign. -/
theorem toNat_of_toInt {bytes : Bytes} (positive : 0 ≤ toInt bytes) :
    (toNat bytes : Int) = toInt bytes := by
  have modulus : Nat.pow 2 (8 * bytes.length) = Nat.pow 256 bytes.length :=
    Nat.pow_mul 2 8 bytes.length
  have fits := toNat_lt bytes
  rw [toInt, modulus, Int.bmod_def] at positive ⊢
  have same : (toNat bytes : Int) % (Nat.pow 256 bytes.length : Nat) = toNat bytes :=
    Int.emod_eq_of_lt (by omega) (by omega)
  rw [same] at positive ⊢
  -- A number in the upper half would be below zero.
  split at positive
  · rename_i small
    rw [if_pos small]
  · omega

end EngineClient.Bytes
