import EngineClient.Proofs.Answers
import EngineClient.Proofs.Text.Utf8

/-! A text that is cut anywhere is read as its whole characters, and as one replacement behind them
where the cut splits a character. -/

namespace EngineClient.Utf8

section

variable {reading next : Strict}

/-- A strict reading as the lossy one that has come as far. -/
def Strict.lossy (reading : Strict) : Reading :=
  ⟨reading.chars, reading.pending⟩

/-- A byte that breaks no text is read alike, strictly or not. -/
theorem Strict.step_lossy {byte : UInt8} (read : reading.step byte = .ok next) :
    reading.lossy.step byte = next.lossy := by
  obtain ⟨chars, start, pending⟩ := reading
  -- A byte opens a character, or goes on with one; a stray byte is no strict step.
  cases pending with
  | none =>
    simp only [Strict.step] at read
    simp only [lossy, Reading.step, Reading.openWith]
    cases opens : opening byte.toNat with
    | whole char => simp only [opens, Except.ok.injEq] at read; rw [← read]
    | lead first => simp only [opens, Except.ok.injEq] at read; rw [← read]
    | stray => simp only [opens] at read; cases read
  | some pending =>
    simp only [Strict.step] at read
    simp only [lossy, Reading.step]
    split at read
    · rename_i accepted
      rw [if_pos accepted]
      -- The byte is the last one that the character owes, or not.
      split at read <;> rename_i owed
      · rw [if_pos owed]
        cases read
        rfl
      · rw [if_neg owed]
        cases read
        rfl
    · cases read

/-- Bytes that break no text are read alike, strictly or not. -/
theorem foldl_lossy {bytes : Bytes} (read : bytes.foldlM Strict.step reading = .ok next) :
    bytes.foldl Reading.step reading.lossy = next.lossy := by
  -- The induction is on the bytes.
  induction bytes generalizing reading with
  | nil => cases read; rfl
  | cons byte bytes ih =>
    rw [List.foldlM_cons] at read
    obtain ⟨middle, first, others⟩ := bind_eq_ok_iff.mp read
    rw [List.foldl_cons, Strict.step_lossy first, ih others]

/-- A byte that breaks no text completes a character, or leaves one pending. -/
theorem Strict.step_cases {byte : UInt8} (read : reading.step byte = .ok next) :
    (∃ char, next.chars = char :: reading.chars ∧ next.pending = none) ∨
      next.chars = reading.chars ∧ next.pending ≠ none := by
  -- Either the byte completes a character, or it leaves one open.
  unfold Strict.step at read
  split at read
  · split at read
    · cases read
      exact .inl ⟨_, rfl, rfl⟩
    · cases read
      exact .inr ⟨rfl, by simp⟩
    · cases read
  · split at read
    · dsimp only at read
      split at read
      · cases read
        exact .inl ⟨_, rfl, rfl⟩
      · cases read
        exact .inr ⟨rfl, by simp⟩
    · cases read

/-- Reading on adds characters, and at least one where it ends between two of them. -/
theorem foldlM_adds {bytes : Bytes} (read : bytes.foldlM Strict.step reading = .ok next) :
    reading.chars <:+ next.chars ∧
      (bytes ≠ [] → next.pending = none → reading.chars.length < next.chars.length) := by
  -- The induction is on the bytes, each of which adds a character or none.
  induction bytes generalizing reading with
  | nil => cases read; exact ⟨List.suffix_rfl, fun absurd => (absurd rfl).elim⟩
  | cons byte bytes ih =>
    rw [List.foldlM_cons] at read
    obtain ⟨middle, first, others⟩ := bind_eq_ok_iff.mp read
    obtain ⟨behind, more⟩ := ih others
    have before : reading.chars <:+ middle.chars := by
      rcases Strict.step_cases first with ⟨char, added, _⟩ | ⟨same, _⟩
      · exact added ▸ List.suffix_cons char _
      · exact same ▸ List.suffix_rfl
    refine ⟨before.trans behind, fun _ done => ?_⟩
    -- The last byte completes a character; those before it take none away.
    cases bytes with
    | nil =>
      cases others
      rcases Strict.step_cases first with ⟨char, added, _⟩ | ⟨_, pending⟩
      · rw [added, List.length_cons]
        exact Nat.lt_succ_self _
      · exact absurd done pending
    | cons other bytes => exact Nat.lt_of_le_of_lt before.length_le (more (List.cons_ne_nil _ _) done)

end

/-- A character of which the last bytes are missing stays pending. -/
theorem foldlM_cut {char : Char} {front behind : Bytes}
    (cut : front ++ behind = String.utf8EncodeChar char) (some : front ≠ []) (missing : behind ≠ [])
    (chars : List Char) (start : Nat) :
    ∃ next pending, front.foldlM Strict.step ⟨chars, start, none⟩
      = .ok ⟨chars, next, .some pending⟩ := by
  obtain ⟨last, whole⟩ := foldlM_char char chars start []
  rw [List.append_nil, ← cut, List.foldlM_append] at whole
  obtain ⟨⟨read, next, pending⟩, first, others⟩ := bind_eq_ok_iff.mp whole
  obtain ⟨added, begun⟩ := foldlM_adds first
  obtain ⟨behindAdded, ended⟩ := foldlM_adds others
  -- The missing bytes add the one character, so the bytes before add none.
  have few : read.length < chars.length + 1 := ended missing rfl
  have none : chars = read := added.eq_of_length_le (Nat.le_of_lt_succ few)
  subst none
  cases pending with
  | none => exact absurd (begun some rfl) (Nat.lt_irrefl _)
  | some pending => exact ⟨next, pending, first⟩

/-- The bytes of a text are read as that text. -/
theorem decodeLossy_spell (chars : List Char) : decodeLossy (spell chars) = String.ofList chars := by
  obtain ⟨next, read⟩ := foldlM_spell chars [] 0
  have lossy : (spell chars).foldl Reading.step {} = ⟨chars.reverse ++ [], none⟩ := foldl_lossy read
  rw [decodeLossy, lossy, Reading.close, List.append_nil, List.reverse_reverse]

/-- The bytes of a text and some of those of one more character are read as the text and a
replacement. -/
theorem decodeLossy_cut {char : Char} {front behind : Bytes}
    (cut : front ++ behind = String.utf8EncodeChar char) (some : front ≠ []) (missing : behind ≠ [])
    (chars : List Char) :
    decodeLossy (spell chars ++ front) = String.ofList (chars ++ [replacement]) := by
  obtain ⟨start, read⟩ := foldlM_spell chars [] 0
  obtain ⟨next, pending, last⟩ := foldlM_cut cut some missing (chars.reverse ++ []) start
  have whole : (spell chars ++ front).foldlM Strict.step {}
      = .ok ⟨chars.reverse ++ [], next, .some pending⟩ := by
    rw [List.foldlM_append, read]
    exact last
  -- The strict reading stands in the middle of a character, and the lossy one with it.
  have lossy : (spell chars ++ front).foldl Reading.step {}
      = ⟨chars.reverse ++ [], .some pending⟩ := foldl_lossy whole
  rw [decodeLossy, lossy, Reading.close, List.append_nil, List.reverse_cons, List.reverse_reverse]

/-- The longest front of some characters whose bytes fit into a size. -/
structure Fits (size : Nat) (chars front : List Char) : Prop where
  isFront : front <+: chars
  fits : (spell front).length ≤ size
  longest : ∀ other, other <+: chars → (spell other).length ≤ size → other <+: front

/-- Whether a cut behind a number of bytes splits one of some characters: no front of them ends
there. -/
def Splits (cut : Nat) (chars : List Char) : Prop :=
  ∀ front, front <+: chars → (spell front).length ≠ cut

/-- Some characters fit into a size, and with the next one they do not. -/
theorem exists_front (size : Nat) (chars : List Char) :
    ∃ front behind, chars = front ++ behind ∧ (spell front).length ≤ size ∧
      ∀ char rest, behind = char :: rest →
        size < (spell front).length + (String.utf8EncodeChar char).length := by
  -- The induction is on the characters, as long as they fit.
  induction chars generalizing size with
  | nil => exact ⟨[], [], rfl, Nat.zero_le _, fun _ _ absurd => nomatch absurd⟩
  | cons char chars ih =>
    by_cases fits : (String.utf8EncodeChar char).length ≤ size
    · -- The first character takes its bytes from the size that the others have.
      obtain ⟨front, behind, rfl, bound, next⟩ := ih (size - (String.utf8EncodeChar char).length)
      refine ⟨char :: front, behind, rfl, ?_, fun other rest same => ?_⟩
      · rw [spell_cons, List.length_append]
        omega
      · have := next other rest same
        rw [spell_cons, List.length_append]
        omega
    · refine ⟨[], char :: chars, rfl, Nat.zero_le _, fun other rest same => ?_⟩
      cases same
      simpa using fits

/-- A front with which the next character does not fit is the longest one that fits. -/
theorem fits_of_next {size : Nat} {front behind : List Char} (bound : (spell front).length ≤ size)
    (next : ∀ char rest, behind = char :: rest →
      size < (spell front).length + (String.utf8EncodeChar char).length) :
    Fits size (front ++ behind) front := by
  refine ⟨List.prefix_append _ _, bound, fun other within small => ?_⟩
  rcases List.prefix_or_prefix_of_prefix within (List.prefix_append front behind) with
    shorter | ⟨more, rfl⟩
  · exact shorter
  · -- A longer front has the next character in it.
    cases more with
    | nil => exact ⟨[], by simp⟩
    | cons char more =>
      obtain ⟨rest, same⟩ := List.prefix_append_right_inj front |>.mp within
      have := next char _ same.symm
      rw [spell_append, spell_cons, List.length_append, List.length_append] at small
      omega

/-- A cut splits a character exactly if the longest front that fits ends before it. -/
theorem Fits.splits_iff {size : Nat} {chars front : List Char} (fits : Fits size chars front) :
    Splits size chars ↔ (spell front).length < size := by
  constructor
  · intro splits
    exact Nat.lt_of_le_of_ne fits.fits (splits front fits.isFront)
  · -- A front that ends at the cut would fit, and be longer than the longest one.
    intro short other within ends
    obtain ⟨more, rfl⟩ := fits.longest other within (Nat.le_of_eq ends)
    rw [spell_append, List.length_append] at short
    omega

/-- A text that is cut is read as its longest front that fits, and as one replacement behind it
exactly if the cut splits a character. -/
theorem decodeLossy_take {size : Nat} {chars : List Char} (long : size < (spell chars).length) :
    ∃ front, Fits size chars front ∧
      (Splits size chars →
        decodeLossy ((spell chars).take size) = String.ofList (front ++ [replacement])) ∧
      (¬Splits size chars → decodeLossy ((spell chars).take size) = String.ofList front) := by
  obtain ⟨front, behind, rfl, bound, next⟩ := exists_front size chars
  have fits := fits_of_next bound next
  -- The text is longer than what fits, so that there is a next character.
  obtain _ | ⟨char, rest⟩ := behind
  · rw [List.append_nil] at long
    omega
  have room := next char rest rfl
  have cut : (spell (front ++ char :: rest)).take size
      = spell front ++ (String.utf8EncodeChar char).take (size - (spell front).length) := by
    rw [spell_append, spell_cons, List.take_append, List.take_of_length_le bound,
      List.take_append_of_le_length (by omega)]
  refine ⟨front, fits, fun splits => ?_, fun whole => ?_⟩
  · -- A character is split, so the cut is behind some of its bytes.
    have short := fits.splits_iff.mp splits
    rw [cut]
    refine decodeLossy_cut (List.take_append_drop _ _) ?_ ?_ front
    · rw [← List.length_pos_iff, List.length_take]
      omega
    · rw [← List.length_pos_iff, List.length_drop]
      omega
  · -- No character is split, so the cut is behind the front.
    have full : size - (spell front).length = 0 := by
      rw [fits.splits_iff] at whole
      omega
    rw [cut, full, List.take_zero, List.append_nil, decodeLossy_spell]

/-- The sign of three bytes has lost its last one. -/
example : decodeLossy ((spell ['a', '€']).take 3) = "a\uFFFD" := by decide

end EngineClient.Utf8
