import EngineClient.Proofs.Answers
import EngineClient.Proofs.Json.RoundTrip

/-! What is read can be written down: its whole numbers fit, and the names of its objects ascend. -/

namespace EngineClient.Json

section

variable {positive : Bool} {significand : Nat} {bytes rest : Bytes} {number : Number}

/-- What gets a sign is a double. -/
theorem isProper_signDouble {found : Option Double}
    (read : signDouble positive found bytes = .ok (number, rest)) : IsProper (.number number) := by
  -- A double out of range is a failure.
  cases found with
  | none => cases read
  | some value =>
    cases read
    exact .double _

/-- A number with an exponent is a double. -/
theorem isProper_exponentPart {power : Int}
    (read : exponentPart positive significand power bytes = .ok (number, rest)) :
    IsProper (.number number) := by
  unfold exponentPart at read
  -- Too large an exponent gives zero or a failure, any other one a double.
  split at read
  rename_i upward bytes found
  split at read
  · cases read
  · split at read
    · split at read
      · exact isProper_signDouble read
      · split at read
        · cases read
        · exact isProper_signDouble read
    · cases read

/-- So is a number that may have one behind its fraction. -/
theorem isProper_exponentOrEnd {power : Int}
    (read : exponentOrEnd positive significand power bytes = .ok (number, rest)) :
    IsProper (.number number) := by
  unfold exponentOrEnd at read
  -- Behind the fraction stands either letter of the exponent, or the number ends.
  split at read
  · exact isProper_exponentPart read
  · exact isProper_exponentPart read
  · exact isProper_signDouble read

/-- So is a number with a fraction. -/
theorem isProper_fractionPart {power : Int}
    (read : fractionPart positive significand power bytes = .ok (number, rest)) :
    IsProper (.number number) := by
  simp only [fractionPart] at read
  split at read
  · split at read <;> cases read
  · exact isProper_exponentOrEnd read

/-- A whole number fits if the digits that were taken in do. -/
theorem isProper_afterWhole {dropped : Nat} (fits : significand ≤ Unsigned.max64)
    (read : afterWhole positive significand dropped bytes = .ok (number, rest)) :
    IsProper (.number number) := by
  -- Behind the digits stands a fraction, an exponent, or the end of the number.
  unfold afterWhole at read
  split at read
  · exact isProper_fractionPart read
  · exact isProper_exponentPart read
  · exact isProper_exponentPart read
  · -- Without them it is a double if digits were dropped, and else whole unless it is too small.
    split at read
    · exact isProper_signDouble read
    · split at read
      · cases read
        exact .int (by omega) (by exact_mod_cast fits)
      · split at read
        · cases read
          exact .double _
        · rename_i inside
          cases read
          exact .int (by omega) (by omega)

/-- Digits are taken in only as long as they fit. -/
theorem absorb_le (digits : Bytes) {read : Nat} (fits : read ≤ Unsigned.max64) :
    (absorb read digits).1 ≤ Unsigned.max64 := by
  -- The induction is on the digits, and what was taken in so far fits.
  induction digits generalizing read with
  | nil => exact fits
  | cons digit digits ih =>
    rw [absorb]
    split
    · rename_i more
      exact ih more
    · exact fits

/-- A number that is read can be written down. -/
theorem isProper_numeral (read : numeral positive bytes = .ok (number, rest)) :
    IsProper (.number number) := by
  unfold numeral at read
  split at read
  · cases read
  · split at read
    · split at read
      · cases read
      · exact isProper_afterWhole (Nat.zero_le _) read
    · exact isProper_afterWhole (Nat.zero_le _) read
  · split at read
    · rename_i byte others _ digit
      -- The first digit alone fits, so the others are taken in behind it.
      have first : digitValue byte ≤ Unsigned.max64 := by
        have small := byte.toNat_lt
        have room : 256 ≤ Unsigned.max64 := by decide
        rw [digitValue]
        omega
      exact isProper_afterWhole (absorb_le _ first) read
    · cases read

end

/-- A word that is read is the value that it stands for. -/
theorem eq_of_word {expected bytes rest : Bytes} {document found : Json}
    (read : word expected document bytes = .ok (found, rest)) : found = document := by
  -- Either the word ends here, or another byte of it agrees.
  fun_induction word expected document bytes with
  | case1 => cases read; rfl
  | case2 => cases read
  | case3 _ _ _ ih => exact ih read
  | case4 => cases read

/-- What is read with some fuel can be written down, if what was read before it can. -/
structure ReadsProper (fuel : Nat) : Prop where
  value {depth : Nat} {bytes rest : Bytes} {document : Json}
    (ran : value depth bytes fuel = .ok (document, rest)) : IsProper document
  items {depth : Nat} {first : Bool} {read : List Json} {bytes rest : Bytes} {document : Json}
    (proper : ∀ item ∈ read, IsProper item)
    (ran : items depth first read bytes fuel = .ok (document, rest)) : IsProper document
  members {depth : Nat} {first : Bool} {read : Fields} {bytes rest : Bytes} {document : Json}
    (ascends : Keyed.Ascends read) (proper : ∀ field ∈ read, IsProper field.2)
    (ran : members depth first read bytes fuel = .ok (document, rest)) : IsProper document

namespace ReadsProper

variable {fuel depth : Nat} {first : Bool} {bytes rest : Bytes} {document : Json}

/-- A value can be written down if what is read inside it can. -/
theorem value_succ (inside : ReadsProper fuel)
    (ran : Json.value depth bytes (fuel + 1) = .ok (document, rest)) : IsProper document := by
  -- The first byte tells the kind of value.
  rw [Json.value] at ran
  split at ran
  · cases ran
  · exact eq_of_word ran ▸ .null
  · exact eq_of_word ran ▸ .bool true
  · exact eq_of_word ran ▸ .bool false
  · split at ran
    · cases ran
      exact .string _
    · cases ran
  · split at ran
    · rename_i read
      cases ran
      exact isProper_numeral read
    · cases ran
  -- Lists and objects are read with nothing in them at first, unless they are nested too deep.
  · split at ran
    · cases ran
    · exact inside.items (List.forall_mem_nil _) ran
  · split at ran
    · cases ran
    · exact inside.members List.Pairwise.nil (List.forall_mem_nil _) ran
  · split at ran
    · split at ran
      · rename_i read
        cases ran
        exact isProper_numeral read
      · cases ran
    · cases ran

/-- A list can be written down if its items can, those read before and those still to come. -/
theorem items_succ (inside : ReadsProper fuel) {read : List Json}
    (proper : ∀ item ∈ read, IsProper item)
    (ran : Json.items depth first read bytes (fuel + 1) = .ok (document, rest)) :
    IsProper document := by
  -- The list fails, ends, or goes on with one more item.
  rw [Json.items] at ran
  split at ran
  · cases ran
  · cases ran
    exact .array fun item member => proper item (List.mem_reverse.mp member)
  · split at ran
    · cases ran
    · -- One more item was read, and the list goes on behind it.
      rename_i one
      exact inside.items (List.forall_mem_cons.mpr ⟨inside.value one, proper⟩) ran

/-- An object can be written down if its members can, those read before and those still to come. -/
theorem members_succ (inside : ReadsProper fuel) {read : Fields} (ascends : Keyed.Ascends read)
    (proper : ∀ field ∈ read, IsProper field.2)
    (ran : Json.members depth first read bytes (fuel + 1) = .ok (document, rest)) :
    IsProper document := by
  -- A name, a colon and a value come in this order, and each of them may fail.
  rw [Json.members] at ran
  split at ran
  · cases ran
  · cases ran
    exact .object ascends proper
  · split at ran
    · cases ran
    · split at ran
      · cases ran
      · split at ran
        · cases ran
        · rename_i one
          refine inside.members (ascends.update _ _) (fun field member => ?_) ran
          -- A member that is set takes the place of an old one, or is added.
          rcases Keyed.mem_put member with rfl | old
          · exact inside.value one
          · exact proper field old

end ReadsProper

/-- Whatever the fuel, what is read can be written down. -/
theorem readsProper (fuel : Nat) : ReadsProper fuel := by
  -- The induction is on the fuel, and each of the three readers asks the others with less of it.
  induction fuel with
  | zero => exact ⟨nofun, fun _ => nofun, fun _ _ => nofun⟩
  | succ fuel ih => exact ⟨ih.value_succ, ih.items_succ, ih.members_succ⟩

/-- A document that is read can be written down. -/
theorem isProper_of_parse {bytes : Bytes} {found : Json} (parsed : parse bytes = .ok found) :
    IsProper found := by
  unfold parse at parsed
  split at parsed
  · rename_i read
    cases parsed
    obtain ⟨⟨other, rest⟩, ran, whole⟩ := bind_eq_ok_iff.mp read
    -- Nothing but blanks may stand behind the document.
    dsimp only at whole
    split at whole
    · cases whole
      exact (readsProper _).value ran
    · cases whole
  · cases parsed

end EngineClient.Json
