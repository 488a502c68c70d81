import EngineClient.Proofs.Tables
import EngineClient.Session.Collect

/-! How gathering counts rows, by a counter that starts again behind its greatest number. -/

namespace EngineClient.Session

open Arrow (NamedBatch)
open Tables (rowsIn)

section

variable {most rows : UInt64} {maxRows : Option UInt64} {batch : NamedBatch}

/-- A counter of rows leaves nothing out as long as they are no more than it can tell. -/
theorem toNat_add_numRows (fits : rows.toNat + batch.table.length < Nat.pow 2 64) :
    (rows + batch.numRows).toNat = rows.toNat + batch.table.length := by
  rw [UInt64.toNat_add, NamedBatch.numRows, UInt64.toNat_ofNat', Nat.add_mod_mod,
    Nat.mod_eq_of_lt fits]

/-- Enough rows are there exactly if the counter has come to the number that is wanted. -/
theorem enough_iff : enough (some most) rows = true ↔ most.toNat ≤ rows.toNat := by
  simp [enough, UInt64.le_iff_toNat_le]

/-- Where fewer rows are there than are wanted, or all are wanted, there are not enough. -/
theorem not_enough (few : ∀ most, maxRows = some most → rows.toNat < most.toNat) :
    enough maxRows rows = false := by
  cases maxRows with
  | none => rfl
  | some most => exact Bool.eq_false_iff.mpr fun reached =>
      Nat.not_le.mpr (few most rfl) (enough_iff.mp reached)

/-- A batch with which there are not enough rows yet is not cut. -/
theorem trimBatch_of_few
    (few : ∀ most, maxRows = some most → rows.toNat + batch.table.length < most.toNat) :
    trimBatch maxRows rows batch = batch := by
  cases maxRows with
  | none => rfl
  | some most =>
    have less := few most rfl
    have fits := Nat.lt_trans less most.toNat_lt
    -- The sum stays below the limit, so it does not wrap.
    refine if_neg fun greater => ?_
    rw [UInt64.lt_iff_toNat_lt, toNat_add_numRows fits] at greater
    omega

/-- Of a batch whose rows the counter can take in, as many are left as are wanted. -/
theorem trimBatch_of_fits (short : rows.toNat < most.toNat)
    (fits : rows.toNat + batch.table.length < Nat.pow 2 64) :
    trimBatch (some most) rows batch
      = { batch with table := batch.table.take (most.toNat - rows.toNat) } := by
  -- There is room left, so the difference does not wrap, either.
  have left : (most - rows).toNat = most.toNat - rows.toNat :=
    UInt64.toNat_sub_of_le _ _ (UInt64.le_iff_toNat_le.mpr (Nat.le_of_lt short))
  simp only [trimBatch]
  split
  · rw [left]
  · rename_i inside
    rw [UInt64.lt_iff_toNat_lt, toNat_add_numRows fits] at inside
    rw [Arrow.Rows.take_of_length_le (by omega)]

/-- A batch with which the counter starts again is not cut, as it seems to bring too few rows. -/
theorem trimBatch_of_wraps (short : rows.toNat < most.toNat) (size : batch.table.length < Nat.pow 2 64)
    (wraps : Nat.pow 2 64 ≤ rows.toNat + batch.table.length) :
    trimBatch (some most) rows batch = batch := by
  refine if_neg fun greater => ?_
  rw [UInt64.lt_iff_toNat_lt, UInt64.toNat_add, NamedBatch.numRows, UInt64.toNat_ofNat',
    Nat.mod_eq_of_lt size] at greater
  -- What is left of the sum is less than there was before the batch.
  have modulus : Nat.pow 2 64 = 18446744073709551616 := rfl
  have again : (rows.toNat + batch.table.length) % 18446744073709551616
      = rows.toNat + batch.table.length - 18446744073709551616 := by
    have most := most.toNat_lt
    omega
  omega

end

section

variable {most rows : Nat} {batch : NamedBatch} {batches : List NamedBatch}

/-- Batches of which none, before enough rows are there, brings more of them than a counter can tell. -/
def FitsCounter (most rows : Nat) (batches : List NamedBatch) : Prop :=
  ∀ front batch back, batches = front ++ batch :: back → rows + (rowsIn front).length < most →
    rows + (rowsIn (front ++ [batch])).length < Nat.pow 2 64

/-- The first of such batches can be counted, unless there are enough rows already. -/
theorem FitsCounter.head (counts : FitsCounter most rows (batch :: batches)) (short : rows < most) :
    rows + batch.table.length < Nat.pow 2 64 := by
  simpa using counts [] batch batches rfl (by simpa using short)

/-- The others can be counted behind it. -/
theorem FitsCounter.tail (counts : FitsCounter most rows (batch :: batches)) :
    FitsCounter most (rows + batch.table.length) batches := by
  intro front other back split short
  have fits := counts (batch :: front) other back (by rw [split]; rfl)
    (by simpa [Nat.add_assoc] using short)
  simpa [Nat.add_assoc] using fits

end

end EngineClient.Session
