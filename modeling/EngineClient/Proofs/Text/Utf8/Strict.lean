import EngineClient.Proofs.Answers
import EngineClient.Proofs.Text.Utf8

/-! Bytes are read as a text exactly if they spell it. -/

namespace EngineClient.Utf8

/-- How a byte leads others, by the range that it is in. -/
inductive Leads (byte : Nat) (first : Partial) : Prop where
  /-- One byte is owed. -/
  | one (least : 0xC2 ≤ byte) (most : byte < 0xE0) (owed : first.owed = 1)
    (code : first.code = byte - 0xC0) (low : 0x80 ≤ first.low) (high : first.high ≤ 0xBF)
  /-- Two bytes are owed, and the next one keeps out codes that are shorter, or half of a pair. -/
  | two (least : 0xE0 ≤ byte) (most : byte < 0xF0) (owed : first.owed = 2)
    (code : first.code = byte - 0xE0) (low : 0x80 ≤ first.low) (high : first.high ≤ 0xBF)
    (proper : byte = 0xE0 → 0xA0 ≤ first.low) (single : byte = 0xED → first.high ≤ 0x9F)
  /-- Three bytes are owed, and the next one keeps out codes that are shorter, or beyond the last. -/
  | three (least : 0xF0 ≤ byte) (most : byte < 0xF5) (owed : first.owed = 3)
    (code : first.code = byte - 0xF0) (low : 0x80 ≤ first.low) (high : first.high ≤ 0xBF)
    (proper : byte = 0xF0 → 0x90 ≤ first.low) (inside : byte = 0xF4 → first.high ≤ 0x8F)

/-- A byte that leads others does so in one of these ways. -/
theorem leads_of_opening {byte : Nat} {first : Partial} (opens : opening byte = .lead first) :
    Leads byte first := by
  -- The range of the byte tells how many bytes it owes.
  by_cases two : 0xC2 ≤ byte ∧ byte < 0xE0
  · rw [opening_two two.1 two.2] at opens
    obtain rfl := Opening.lead.inj opens
    exact .one two.1 two.2 rfl rfl (Nat.le_refl _) (Nat.le_refl _)
  by_cases three : 0xE0 ≤ byte ∧ byte < 0xF0
  · rw [opening_three three.1 three.2] at opens
    obtain rfl := Opening.lead.inj opens
    refine .two three.1 three.2 rfl rfl ?_ ?_ ?_ ?_
    -- The bounds on the next byte are the usual ones, but for two bytes.
    all_goals dsimp only; split <;> omega
  by_cases four : 0xF0 ≤ byte ∧ byte < 0xF5
  · rw [opening_four four.1 four.2] at opens
    obtain rfl := Opening.lead.inj opens
    refine .three four.1 four.2 rfl rfl ?_ ?_ ?_ ?_
    all_goals dsimp only; split <;> omega
  · -- Outside of the three ranges a byte is a character or a stray.
    exfalso
    by_cases ascii : byte < 0x80
    · rw [opening, if_pos ascii] at opens
      cases opens
    by_cases early : byte < 0xC2
    · rw [opening, if_neg ascii, if_pos early] at opens
      cases opens
    · rw [opening, if_neg ascii, if_neg early, if_neg (by omega), if_neg (by omega),
        if_neg (by omega), if_neg (by omega), if_neg (by omega), if_neg (by omega),
        if_neg (by omega)] at opens
      cases opens

/-- A code that is no half of a pair, and not beyond the last one, is that of its character. -/
theorem toNat_ofNat (code : Nat) (valid : code < 0xD800 ∨ 0xDFFF < code ∧ code < 0x110000) :
    (Char.ofNat code).val.toNat = code := by
  have proper : code.isValidChar := valid
  rw [Char.ofNat, dif_pos proper]
  rfl

/-- A byte is the one of a number below 256 if it has that number. -/
theorem eq_ofNat (byte : UInt8) {value : Nat} (same : byte.toNat = value) :
    byte = UInt8.ofNat value := by
  rw [← same, UInt8.ofNat_toNat]

/-- A byte adds six bits to the code. -/
@[simp] theorem Partial.code_add (pending : Partial) (byte : Nat) :
    (pending.add byte).code = pending.code * 64 + (byte - 0x80) := rfl

/-- A byte is one byte less that is owed. -/
@[simp] theorem Partial.owed_add (pending : Partial) (byte : Nat) :
    (pending.add byte).owed = pending.owed - 1 := rfl

/-- Behind a further byte the least next one is the usual one. -/
@[simp] theorem Partial.low_add (pending : Partial) (byte : Nat) :
    (pending.add byte).low = 0x80 := rfl

/-- Behind a further byte the greatest next one is the usual one. -/
@[simp] theorem Partial.high_add (pending : Partial) (byte : Nat) :
    (pending.add byte).high = 0xBF := rfl

section

variable {lead : UInt8} {pending first : Partial} {bytes behind : Bytes} {code : Nat}

/-- A byte that is a character by itself is the only byte of that character. -/
theorem spells_of_opening {char : Char} (opens : opening lead.toNat = .whole char) :
    [lead] = String.utf8EncodeChar char := by
  -- Only the first half of the bytes are characters.
  by_cases ascii : lead.toNat < 0x80
  · rw [opening, if_pos ascii] at opens
    obtain rfl := Opening.whole.inj opens
    have code : (Char.ofNat lead.toNat).toNat = lead.toNat := toNat_ofNat _ (by omega)
    rw [utf8EncodeChar_ascii (by omega), code, UInt8.ofNat_toNat]
  · rw [opening, if_neg ascii] at opens
    repeat
      split at opens
      · cases opens
    cases opens

/-- One byte completes a character of which one is owed. -/
theorem Completes.single (completes : Completes pending behind code) (owed : pending.owed = 1) :
    ∃ last : UInt8, behind = [last] ∧ pending.low ≤ last.toNat ∧ last.toNat ≤ pending.high ∧
      pending.code * 64 + (last.toNat - 0x80) = code := by
  cases completes with
  | last _ low high whole => exact ⟨_, rfl, low, high, whole⟩
  | more several => omega

/-- A byte and others complete a character of which more than one is owed. -/
theorem Completes.several (completes : Completes pending behind code) (owed : 1 < pending.owed) :
    ∃ (byte : UInt8) (others : Bytes), behind = byte :: others ∧
      pending.low ≤ byte.toNat ∧ byte.toNat ≤ pending.high ∧
      Completes (pending.add byte.toNat) others code := by
  cases completes with
  | last single => omega
  | more _ low high completes => exact ⟨_, _, rfl, low, high, completes⟩

/-- A byte and what completes the character that it leads are the bytes of that character. -/
theorem spells_of_completes (opens : opening lead.toNat = .lead first)
    (completes : Completes first behind code) :
    lead :: behind = String.utf8EncodeChar (Char.ofNat code) := by
  -- The first byte tells how many follow.
  cases leads_of_opening opens with
  | one least most owed start low high =>
    obtain ⟨last, rfl, lastLow, lastHigh, whole⟩ := completes.single owed
    -- The code has up to eleven bits, and more than seven.
    have same := toNat_ofNat code (by omega)
    simp only [String.utf8EncodeChar, same]
    rw [if_neg (by omega), if_pos (by omega), ← eq_ofNat lead (by omega),
      ← eq_ofNat last (by omega)]
  | two least most owed start low high proper single =>
    obtain ⟨second, _, rfl, secondLow, secondHigh, others⟩ := completes.several (by omega)
    obtain ⟨last, rfl, lastLow, lastHigh, whole⟩ := others.single (by simp; omega)
    simp only [Partial.code_add, Partial.low_add, Partial.high_add] at lastLow lastHigh whole
    -- The code has up to sixteen bits, and more than eleven.
    have same := toNat_ofNat code (by omega)
    simp only [String.utf8EncodeChar, same]
    rw [if_neg (by omega), if_neg (by omega), if_pos (by omega),
      ← eq_ofNat lead (by omega), ← eq_ofNat second (by omega),
      ← eq_ofNat last (by omega)]
  | three least most owed start low high proper inside =>
    obtain ⟨second, _, rfl, secondLow, secondHigh, others⟩ := completes.several (by omega)
    obtain ⟨third, _, rfl, thirdLow, thirdHigh, others⟩ :=
      others.several (by simp; omega)
    obtain ⟨last, rfl, lastLow, lastHigh, whole⟩ := others.single (by simp; omega)
    simp only [Partial.code_add, Partial.low_add, Partial.high_add]
      at thirdLow thirdHigh lastLow lastHigh whole
    -- The code has more than sixteen bits.
    have same := toNat_ofNat code (by omega)
    simp only [String.utf8EncodeChar, same]
    rw [if_neg (by omega), if_neg (by omega), if_neg (by omega),
      ← eq_ofNat lead (by omega), ← eq_ofNat second (by omega),
      ← eq_ofNat third (by omega), ← eq_ofNat last (by omega)]

/-- A character that is pending where a text is read to its end is completed in it. -/
theorem exists_completes {chars text : List Char} {start : Nat} {reading : Strict}
    (owed : 0 < pending.owed)
    (read : bytes.foldlM Strict.step ⟨chars, start, some pending⟩ = .ok reading)
    (whole : reading.close = .ok text) :
    ∃ behind rest code next, bytes = behind ++ rest ∧ Completes pending behind code ∧
      rest.foldlM Strict.step ⟨Char.ofNat code :: chars, next, none⟩ = .ok reading := by
  -- The induction is on the bytes: each of them is owed, and the last one owed completes.
  induction bytes generalizing pending with
  | nil =>
    cases read
    cases whole
  | cons byte bytes ih =>
    rw [List.foldlM_cons] at read
    simp only [Strict.step] at read
    by_cases accepted : pending.accepts byte.toNat = true
    · have bounds : pending.low ≤ byte.toNat ∧ byte.toNat ≤ pending.high := by
        simpa [Partial.accepts] using accepted
      rw [if_pos accepted] at read
      -- The byte that is owed last completes the character, and any other leaves it open.
      by_cases last : pending.owed - 1 = 0
      · have done : (pending.add byte.toNat).owed = 0 := last
        rw [if_pos done] at read
        exact ⟨[byte], bytes, _, _, rfl, .last (by omega) bounds.1 bounds.2 rfl, read⟩
      · have more : (pending.add byte.toNat).owed ≠ 0 := last
        rw [if_neg more] at read
        obtain ⟨behind, rest, code, next, rfl, completes, others⟩ := ih (Nat.pos_of_ne_zero more) read
        exact ⟨byte :: behind, rest, code, next, rfl, .more (by omega) bounds.1 bounds.2 completes,
          others⟩
    · rw [if_neg accepted] at read
      cases read

/-- Bytes that are read to their end spell the characters that are read. -/
theorem spells_of_read {chars text : List Char} {start : Nat} {reading : Strict}
    (read : bytes.foldlM Strict.step ⟨chars, start, none⟩ = .ok reading)
    (whole : reading.close = .ok text) : ∃ new, bytes = spell new ∧ text = chars.reverse ++ new := by
  -- Strong induction on the bytes, as a character takes up to four of them at once.
  induction size : bytes.length using Nat.strongRecOn generalizing bytes chars start with
  | ind size ih =>
    subst size
    cases bytes with
    | nil =>
      cases read
      cases whole
      exact ⟨[], rfl, by simp⟩
    | cons byte bytes =>
      rw [List.foldlM_cons] at read
      -- The first byte is a character, or opens one that the next bytes complete.
      cases opens : opening byte.toNat with
      | whole char =>
        simp only [Strict.step, opens] at read
        obtain ⟨new, rfl, rfl⟩ := ih bytes.length (Nat.lt_succ_self _) read rfl
        refine ⟨char :: new, ?_, by simp⟩
        rw [spell_cons, ← spells_of_opening opens, List.singleton_append]
      | lead first =>
        simp only [Strict.step, opens] at read
        have owed : 0 < first.owed := by
          cases leads_of_opening opens <;> omega
        obtain ⟨behind, rest, code, next, rfl, completes, others⟩ := exists_completes owed read whole
        have shorter : rest.length < (byte :: (behind ++ rest)).length := by
          rw [List.length_cons, List.length_append]
          omega
        obtain ⟨new, rfl, rfl⟩ := ih rest.length shorter others rfl
        refine ⟨Char.ofNat code :: new, ?_, by simp⟩
        rw [spell_cons, ← spells_of_completes opens completes, List.cons_append]
      | stray =>
        simp only [Strict.step, opens] at read
        cases read

end

/-- Bytes are read as a text exactly if they spell it. -/
theorem decode?_eq_some_iff {bytes : Bytes} {text : String} :
    decode? bytes = some text ↔ bytes = spell text.toList := by
  constructor
  · intro read
    -- The reading is closed, so that no character of it is pending.
    obtain ⟨reading, walked, ended⟩ := bind_eq_ok_iff.mp (toOption_eq_some_iff.mp read)
    obtain ⟨chars, closed, same⟩ := bind_eq_ok_iff.mp ended
    cases same
    obtain ⟨new, spelled, rfl⟩ := spells_of_read walked closed
    simpa using spelled
  · rintro rfl
    rw [decode?_spell, String.ofList_toList]

end EngineClient.Utf8
