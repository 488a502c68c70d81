import EngineClient.Text.Utf8

/-! The bytes that spell a text are read back as that text. -/

namespace EngineClient.Utf8

/-- The bytes that spell some characters. -/
def spell (chars : List Char) : Bytes :=
  chars.flatMap String.utf8EncodeChar

/-- Without characters there are no bytes. -/
@[simp] theorem spell_nil : spell [] = [] := rfl

/-- The bytes of the first character come first. -/
@[simp] theorem spell_cons (char : Char) (chars : List Char) :
    spell (char :: chars) = String.utf8EncodeChar char ++ spell chars := rfl

/-- The bytes of characters come before those of the characters behind them. -/
@[simp] theorem spell_append (chars others : List Char) :
    spell (chars ++ others) = spell chars ++ spell others :=
  List.flatMap_append

/-- The bytes of a text spell its characters. -/
theorem encode_eq_spell (text : String) : encode text = spell text.toList := rfl

/-- The code of a character is no half of a pair, and not beyond the last one. -/
theorem code_valid (char : Char) :
    char.toNat < 0xD800 ∨ 0xDFFF < char.toNat ∧ char.toNat < 0x110000 :=
  char.valid

section

variable {char : Char}

/-- A character of the first half of a byte is spelled by its code. -/
theorem utf8EncodeChar_ascii (small : char.toNat < 0x80) :
    String.utf8EncodeChar char = [UInt8.ofNat char.toNat] :=
  if_pos (Nat.le_of_lt_succ small)

/-- All bytes of another character lie in the second half. -/
theorem utf8EncodeChar_high (large : 0x80 ≤ char.toNat) {byte : UInt8}
    (member : byte ∈ String.utf8EncodeChar char) : 0x80 ≤ byte.toNat := by
  have code : char.val.toNat = char.toNat := rfl
  have short : ¬char.val.toNat ≤ 127 := by omega
  simp only [String.utf8EncodeChar, if_neg short] at member
  -- There are two, three or four bytes, and each of them is a remainder set high.
  split at member
  all_goals try split at member
  all_goals
    simp only [List.mem_cons, List.not_mem_nil, or_false] at member
    rcases member with rfl | rfl | rfl | rfl
    all_goals simp only [UInt8.toNat_ofNat']; omega

end

section

variable {byte : Nat}

/-- A byte that leads one more. -/
theorem opening_two (low : 0xC2 ≤ byte) (high : byte < 0xE0) :
    opening byte = .lead ⟨byte - 0xC0, 1, 1, 0x80, 0xBF⟩ := by
  rw [opening, if_neg (by omega), if_neg (by omega), if_pos high]

/-- A byte that leads two more, of which the first is bounded by it. -/
theorem opening_three (low : 0xE0 ≤ byte) (high : byte < 0xF0) :
    opening byte = .lead ⟨byte - 0xE0, 1, 2, if byte = 0xE0 then 0xA0 else 0x80,
      if byte = 0xED then 0x9F else 0xBF⟩ := by
  rw [opening, if_neg (by omega), if_neg (by omega), if_neg (by omega)]
  -- Two of these bytes have bounds of their own on the byte behind.
  by_cases least : byte = 0xE0
  · simp [least]
  · by_cases surrogate : byte = 0xED
    · simp [surrogate]
    · rw [if_neg least, if_neg surrogate, if_pos high, if_neg least, if_neg surrogate]

/-- A byte that leads three more, of which the first is bounded by it. -/
theorem opening_four (low : 0xF0 ≤ byte) (high : byte < 0xF5) :
    opening byte = .lead ⟨byte - 0xF0, 1, 3, if byte = 0xF0 then 0x90 else 0x80,
      if byte = 0xF4 then 0x8F else 0xBF⟩ := by
  rw [opening, if_neg (by omega), if_neg (by omega), if_neg (by omega), if_neg (by omega),
    if_neg (by omega), if_neg (by omega)]
  -- The least and the greatest of these bytes have bounds of their own on the byte behind.
  by_cases least : byte = 0xF0
  · simp [least]
  · by_cases last : byte = 0xF4
    · simp [last]
    · rw [if_neg least, if_pos (by omega), if_neg least, if_neg last]

end

/-- A byte that is a number below 256 is that number. -/
theorem toNat_byte (value : Nat) (small : value < 256) : (UInt8.ofNat value).toNat = value := by
  rw [UInt8.toNat_ofNat']
  omega

/-- The bytes that complete a pending character, and the code that they make up with it. -/
inductive Completes : Partial → Bytes → Nat → Prop where
  /-- One byte is owed. -/
  | last {pending : Partial} {byte : UInt8} {code : Nat} (owed : pending.owed = 1)
    (low : pending.low ≤ byte.toNat) (high : byte.toNat ≤ pending.high)
    (whole : (pending.add byte.toNat).code = code) : Completes pending [byte] code
  /-- More bytes are owed. -/
  | more {pending : Partial} {byte : UInt8} {behind : Bytes} {code : Nat} (owed : 1 < pending.owed)
    (low : pending.low ≤ byte.toNat) (high : byte.toNat ≤ pending.high)
    (completes : Completes (pending.add byte.toNat) behind code) :
    Completes pending (byte :: behind) code

/-- Bytes that complete a pending character are read as it. -/
theorem foldlM_completes {pending : Partial} {bytes : Bytes} {code : Nat}
    (completes : Completes pending bytes code) (chars : List Char) (start : Nat) (rest : Bytes) :
    ∃ next, (bytes ++ rest).foldlM Strict.step ⟨chars, start, some pending⟩
      = rest.foldlM Strict.step ⟨Char.ofNat code :: chars, next, none⟩ := by
  -- The induction is on the bytes that complete the character, of which the last one adds it.
  induction completes with
  | @last pending byte code owed low high whole =>
    have accepted : pending.accepts byte.toNat = true := by simp [Partial.accepts, low, high]
    have left : (pending.add byte.toNat).owed = 0 := by
      show pending.owed - 1 = 0
      omega
    refine ⟨start + (pending.add byte.toNat).taken, ?_⟩
    rw [List.cons_append, List.nil_append, List.foldlM_cons]
    simp only [Strict.step, if_pos accepted, if_pos left, whole]
    rfl
  | @more pending byte behind code owed low high completes ih =>
    have accepted : pending.accepts byte.toNat = true := by simp [Partial.accepts, low, high]
    -- More bytes are owed behind this one, so the character is still open.
    have left : (pending.add byte.toNat).owed ≠ 0 := by
      show pending.owed - 1 ≠ 0
      omega
    obtain ⟨next, read⟩ := ih
    refine ⟨next, ?_⟩
    rw [List.cons_append, List.foldlM_cons, ← read]
    simp only [Strict.step, if_pos accepted, if_neg left]
    rfl

/-- A byte that leads others is read as the character that these complete. -/
theorem foldlM_lead {byte : UInt8} {first : Partial} {bytes : Bytes} {code : Nat}
    (opens : opening byte.toNat = .lead first) (completes : Completes first bytes code)
    (chars : List Char) (start : Nat) (rest : Bytes) :
    ∃ next, (byte :: bytes ++ rest).foldlM Strict.step ⟨chars, start, none⟩
      = rest.foldlM Strict.step ⟨Char.ofNat code :: chars, next, none⟩ := by
  obtain ⟨next, read⟩ := foldlM_completes completes chars start rest
  -- The first byte opens the character, which the others complete.
  refine ⟨next, ?_⟩
  rw [List.cons_append, List.foldlM_cons, ← read]
  simp only [Strict.step, opens]
  rfl

section

variable {lead second third last : UInt8} {code : Nat} (chars : List Char) (start : Nat) (rest : Bytes)

/-- Two bytes are read as the character of the code that they make up. -/
theorem foldlM_two (least : 0xC2 ≤ lead.toNat) (most : lead.toNat < 0xE0)
    (low : 0x80 ≤ last.toNat) (high : last.toNat ≤ 0xBF)
    (whole : (lead.toNat - 0xC0) * 64 + (last.toNat - 0x80) = code) :
    ∃ next, ([lead, last] ++ rest).foldlM Strict.step ⟨chars, start, none⟩
      = rest.foldlM Strict.step ⟨Char.ofNat code :: chars, next, none⟩ :=
  foldlM_lead (opening_two least most) (.last rfl low high whole) chars start rest

/-- Three bytes are read as the character of the code that they make up. -/
theorem foldlM_three (least : 0xE0 ≤ lead.toNat) (most : lead.toNat < 0xF0)
    (low : 0x80 ≤ second.toNat) (high : second.toNat ≤ 0xBF)
    (proper : lead.toNat = 0xE0 → 0xA0 ≤ second.toNat)
    (single : lead.toNat = 0xED → second.toNat ≤ 0x9F)
    (lastLow : 0x80 ≤ last.toNat) (lastHigh : last.toNat ≤ 0xBF)
    (whole : ((lead.toNat - 0xE0) * 64 + (second.toNat - 0x80)) * 64 + (last.toNat - 0x80) = code) :
    ∃ next, ([lead, second, last] ++ rest).foldlM Strict.step ⟨chars, start, none⟩
      = rest.foldlM Strict.step ⟨Char.ofNat code :: chars, next, none⟩ := by
  refine foldlM_lead (opening_three least most)
    (.more (Nat.lt_succ_self 1) ?_ ?_ (.last rfl lastLow lastHigh whole)) chars start rest
  -- The bounds on the second byte depend on the first.
  · show (if _ then _ else _) ≤ _
    split <;> omega
  · show _ ≤ if _ then _ else _
    split <;> omega

/-- Four bytes are read as the character of the code that they make up. -/
theorem foldlM_four (least : 0xF0 ≤ lead.toNat) (most : lead.toNat < 0xF5)
    (low : 0x80 ≤ second.toNat) (high : second.toNat ≤ 0xBF)
    (proper : lead.toNat = 0xF0 → 0x90 ≤ second.toNat)
    (inside : lead.toNat = 0xF4 → second.toNat ≤ 0x8F)
    (thirdLow : 0x80 ≤ third.toNat) (thirdHigh : third.toNat ≤ 0xBF)
    (lastLow : 0x80 ≤ last.toNat) (lastHigh : last.toNat ≤ 0xBF)
    (whole : (((lead.toNat - 0xF0) * 64 + (second.toNat - 0x80)) * 64 + (third.toNat - 0x80)) * 64
      + (last.toNat - 0x80) = code) :
    ∃ next, ([lead, second, third, last] ++ rest).foldlM Strict.step ⟨chars, start, none⟩
      = rest.foldlM Strict.step ⟨Char.ofNat code :: chars, next, none⟩ := by
  refine foldlM_lead (opening_four least most) (.more (Nat.lt_succ_of_lt (Nat.lt_succ_self 1)) ?_ ?_
    (.more (Nat.lt_succ_self 1) thirdLow thirdHigh (.last rfl lastLow lastHigh whole)))
    chars start rest
  -- The bounds on the second byte depend on the first.
  · show (if _ then _ else _) ≤ _
    split <;> omega
  · show _ ≤ if _ then _ else _
    split <;> omega

end

/-- The bytes of a character are read as that character. -/
theorem foldlM_char (char : Char) (chars : List Char) (start : Nat) (rest : Bytes) :
    ∃ next, (String.utf8EncodeChar char ++ rest).foldlM Strict.step ⟨chars, start, none⟩
      = rest.foldlM Strict.step ⟨char :: chars, next, none⟩ := by
  have same := Char.ofNat_toNat char
  have valid := code_valid char
  have code : char.val.toNat = char.toNat := rfl
  unfold String.utf8EncodeChar
  simp only [code]
  generalize char.toNat = value at same valid
  -- A character has one to four bytes, by the range of its code.
  by_cases one : value ≤ 127
  · have byte : (UInt8.ofNat value).toNat = value := toNat_byte value (by omega)
    have whole : Strict.step ⟨chars, start, none⟩ (UInt8.ofNat value)
        = .ok ⟨char :: chars, start + 1, none⟩ := by
      simp only [Strict.step, byte, opening, if_pos (Nat.lt_succ_of_le one), same]
    rw [if_pos one, List.cons_append, List.nil_append, List.foldlM_cons, whole]
    exact ⟨start + 1, rfl⟩
  rw [if_neg one, ← same]
  -- All longer characters end in a byte with six bits of the code.
  have last := toNat_byte (value % 64 + 128) (by omega)
  by_cases two : value ≤ 2047
  · have lead := toNat_byte (value / 64 % 32 + 192) (by omega)
    rw [if_pos two]
    refine foldlM_two chars start rest ?_ ?_ ?_ ?_ ?_
    all_goals simp only [lead, last]; omega
  rw [if_neg two]
  have third := toNat_byte (value / 64 % 64 + 128) (by omega)
  by_cases three : value ≤ 65535
  · have lead := toNat_byte (value / 4096 % 16 + 224) (by omega)
    rw [if_pos three]
    refine foldlM_three chars start rest ?_ ?_ ?_ ?_ ?_ ?_ ?_ ?_ ?_
    all_goals simp only [lead, third, last]; omega
  · have second := toNat_byte (value / 4096 % 64 + 128) (by omega)
    have lead := toNat_byte (value / 262144 % 8 + 240) (by omega)
    rw [if_neg three]
    refine foldlM_four chars start rest ?_ ?_ ?_ ?_ ?_ ?_ ?_ ?_ ?_ ?_ ?_
    all_goals simp only [lead, second, third, last]; omega

/-- The bytes of some characters are read as these characters. -/
theorem foldlM_spell (text chars : List Char) (start : Nat) :
    ∃ next, (spell text).foldlM Strict.step ⟨chars, start, none⟩
      = .ok ⟨text.reverse ++ chars, next, none⟩ := by
  -- The induction is on the characters, which are put in front one after another.
  induction text generalizing chars start with
  | nil => exact ⟨start, rfl⟩
  | cons char text ih =>
    obtain ⟨middle, first⟩ := foldlM_char char chars start (spell text)
    obtain ⟨next, others⟩ := ih (char :: chars) middle
    refine ⟨next, ?_⟩
    rw [spell_cons, first, others, List.reverse_cons, List.append_assoc]
    rfl

/-- The bytes that spell some characters are the text of them. -/
theorem decode?_spell (chars : List Char) : decode? (spell chars) = some (String.ofList chars) := by
  obtain ⟨next, read⟩ := foldlM_spell chars [] 0
  -- Nothing is owed at the end, so the text is what was put together.
  have whole : decode (spell chars) = .ok (String.ofList chars) := by
    rw [decode, read, List.append_nil]
    show Except.ok (String.ofList chars.reverse.reverse) = _
    rw [List.reverse_reverse]
  rw [decode?, whole]
  rfl

end EngineClient.Utf8
