import EngineClient.Json.Parser
import EngineClient.Json.Printer
import EngineClient.Proofs.Text.Utf8

/-! A quoted text is read back as that text. -/

namespace EngineClient.Json

open Utf8 (spell)

/-- A byte that stands for itself inside a text. -/
structure IsItself (byte : UInt8) : Prop where
  noQuote : byte ≠ 0x22
  noBackslash : byte ≠ 0x5C
  noControl : ¬byte < 0x20

section

variable {read rest : Bytes} {fuel : Nat}

/-- A byte that stands for itself is read. -/
theorem stringBytes_byte {byte : UInt8} (plain : IsItself byte) :
    stringBytes read (byte :: rest) (fuel + 1) = stringBytes (byte :: read) rest fuel := by
  rw [stringBytes, if_neg plain.noControl]
  · exact plain.noQuote
  · exact plain.noBackslash

/-- Bytes that stand for themselves are read one by one. -/
theorem stringBytes_plain {bytes : Bytes} (plain : ∀ byte ∈ bytes, IsItself byte) :
    stringBytes read (bytes ++ rest) (fuel + bytes.length)
      = stringBytes (bytes.reverse ++ read) rest fuel := by
  -- Each byte costs one step and is put in front of those read, which are kept in reverse.
  induction bytes generalizing read with
  | nil => rfl
  | cons byte bytes ih =>
    obtain ⟨first, others⟩ := List.forall_mem_cons.mp plain
    rw [List.cons_append, List.length_cons, ← Nat.add_assoc, stringBytes_byte first, ih others,
      List.reverse_cons, List.append_assoc, List.singleton_append]

/-- What an escape spells is read. -/
theorem stringBytes_escape {bytes spelled behind : Bytes} (read : Bytes)
    (escape : escaped bytes = .ok (spelled, behind)) :
    stringBytes read (0x5C :: bytes) (fuel + 1)
      = stringBytes (spelled.reverse ++ read) behind fuel := by
  rw [stringBytes, escape]

end

/-- A hexadecimal digit is one byte, which is read back as its value. -/
theorem hexDigit_read (value : Fin 16) :
    String.utf8EncodeChar (Bytes.hexDigit value) = [UInt8.ofNat (Bytes.hexDigit value).toNat] ∧
      hexValue? (UInt8.ofNat (Bytes.hexDigit value).toNat) = some value.val := by
  -- There are sixteen digits to look at.
  revert value
  decide

/-- Two digits behind two zeros are read back as the number that they make up. -/
theorem fourHex_digits (high low : Fin 16) (rest : Bytes) :
    fourHex (spell ['0', '0', Bytes.hexDigit high, Bytes.hexDigit low] ++ rest)
      = .ok (high * 16 + low, rest) := by
  obtain ⟨highSpelled, highRead⟩ := hexDigit_read high
  obtain ⟨lowSpelled, lowRead⟩ := hexDigit_read low
  have zero : String.utf8EncodeChar '0' = [0x30] := by decide
  have zeroRead : hexValue? 0x30 = some 0 := by decide
  -- Each of the four bytes is one digit, of which the first two count for nothing.
  simp only [Utf8.spell_cons, Utf8.spell_nil, zero, highSpelled, lowSpelled, List.cons_append,
    List.nil_append, fourHex, zeroRead, highRead, lowRead, Nat.zero_mul, Nat.zero_add]

/-- The escape of a control character is read back as that character. -/
theorem escaped_control {char : Char} (control : char.toNat < 0x20) (rest : Bytes) :
    escaped (spell ['u', '0', '0', Bytes.hexDigit (char.toNat / 16),
        Bytes.hexDigit (char.toNat % 16)] ++ rest)
      = .ok (String.utf8EncodeChar char, rest) := by
  have digits := fourHex_digits ⟨char.toNat / 16, by omega⟩ ⟨char.toNat % 16, by omega⟩ rest
  have whole : char.toNat / 16 * 16 + char.toNat % 16 = char.toNat := Nat.div_add_mod' _ _
  simp only [whole] at digits
  -- The letter is read first, and the digits behind it.
  have letter : spell ['u', '0', '0', Bytes.hexDigit (char.toNat / 16),
        Bytes.hexDigit (char.toNat % 16)] ++ rest
      = 0x75 :: (spell ['0', '0', Bytes.hexDigit (char.toNat / 16),
        Bytes.hexDigit (char.toNat % 16)] ++ rest) := rfl
  -- A control character is one by itself, and no half of a pair.
  have low : ¬(0xDC00 ≤ char.toNat ∧ char.toNat ≤ 0xDFFF) := by omega
  have single : char.toNat < 0xD800 ∨ 0xDBFF < char.toNat := by omega
  rw [letter]
  simp only [escaped, codeEscape, digits, Bind.bind, Except.bind, if_neg low, if_pos single,
    codeBytes, Char.ofNat_toNat]

/-- How a character is written inside a text: as an escape, or as itself. -/
inductive Written (char : Char) : Prop where
  /-- A backslash stands before what is read back as the character. -/
  | escape (behind : List Char) (written : escape char = '\\' :: behind)
    (read : ∀ rest, escaped (spell behind ++ rest) = .ok (String.utf8EncodeChar char, rest))
  /-- Its bytes stand for themselves. -/
  | plain (written : escape char = [char])
    (plain : ∀ byte ∈ String.utf8EncodeChar char, IsItself byte)

/-- A character that needs no escape has bytes that stand for themselves. -/
theorem isItself_of_char {char : Char} (noQuote : char ≠ '"') (noBackslash : char ≠ '\\')
    (noControl : ¬char.toNat < 0x20) {byte : UInt8} (member : byte ∈ String.utf8EncodeChar char) :
    IsItself byte := by
  -- A character is one byte with its own code, or several that are all high.
  have value : byte.toNat = char.toNat ∨ 0x80 ≤ byte.toNat := by
    by_cases ascii : char.toNat < 0x80
    · rw [Utf8.utf8EncodeChar_ascii ascii, List.mem_singleton] at member
      rw [member]
      exact .inl (Utf8.toNat_byte _ (by omega))
    · exact .inr (Utf8.utf8EncodeChar_high (by omega) member)
  refine ⟨?_, ?_, ?_⟩
  · -- A byte with the code of a quote or a backslash would be that character.
    rintro rfl
    exact noQuote (Char.toNat_inj.mp (value.resolve_right (by decide)).symm)
  · rintro rfl
    exact noBackslash (Char.toNat_inj.mp (value.resolve_right (by decide)).symm)
  · -- A low byte would be a control character.
    intro small
    have below : byte.toNat < 0x20 := small
    omega

/-- Every character is written in one of these ways. -/
theorem written (char : Char) : Written char := by
  -- Seven characters have an escape of one letter, or are it themselves.
  by_cases quoted : char = '"'
  · subst quoted
    exact .escape ['"'] rfl fun _ => rfl
  by_cases backslash : char = '\\'
  · subst backslash
    exact .escape ['\\'] rfl fun _ => rfl
  by_cases back : char = '\x08'
  · subst back
    exact .escape ['b'] rfl fun _ => rfl
  by_cases feed : char = '\x0C'
  · subst feed
    exact .escape ['f'] rfl fun _ => rfl
  by_cases line : char = '\n'
  · subst line
    exact .escape ['n'] rfl fun _ => rfl
  by_cases carriage : char = '\r'
  · subst carriage
    exact .escape ['r'] rfl fun _ => rfl
  by_cases tab : char = '\t'
  · subst tab
    exact .escape ['t'] rfl fun _ => rfl
  -- What is left are control characters, which are written by their codes, and all others.
  by_cases control : char.toNat < 0x20
  · refine .escape ['u', '0', '0', Bytes.hexDigit (char.toNat / 16),
      Bytes.hexDigit (char.toNat % 16)] ?_ (escaped_control control)
    simp only [escape, if_neg quoted, if_neg backslash, if_neg back, if_neg feed, if_neg line,
      if_neg carriage, if_neg tab, if_pos control]
  · refine .plain ?_ fun byte => isItself_of_char quoted backslash control
    simp only [escape, if_neg quoted, if_neg backslash, if_neg back, if_neg feed, if_neg line,
      if_neg carriage, if_neg tab, if_neg control]

/-- The bytes of a text up to its closing quote are read back as the bytes of its characters. -/
theorem stringBytes_escaped (chars : List Char) (read rest : Bytes) {fuel : Nat}
    (enough : (spell (chars.flatMap escape)).length < fuel) :
    stringBytes read (spell (chars.flatMap escape) ++ 0x22 :: rest) fuel
      = .ok (read.reverse ++ spell chars, rest) := by
  -- The induction is on the characters; the fuel is more than the bytes that are left.
  induction chars generalizing read fuel with
  | nil =>
    -- At the closing quote the text is what was read.
    obtain ⟨fuel, rfl⟩ := Nat.exists_eq_add_one.mpr (show 0 < fuel by omega)
    rw [List.flatMap_nil, Utf8.spell_nil, List.nil_append, stringBytes, List.append_nil]
  | cons char chars ih =>
    rw [List.flatMap_cons, Utf8.spell_append] at enough ⊢
    rw [List.append_assoc]
    cases written char with
    | escape behind written escape =>
      rw [written, Utf8.spell_cons] at enough ⊢
      -- The backslash is one byte, and behind it the escape is read as a whole.
      have slash : String.utf8EncodeChar '\\' = [0x5C] := by decide
      rw [slash] at enough ⊢
      simp only [List.length_append, List.length_singleton] at enough
      obtain ⟨fuel, rfl⟩ := Nat.exists_eq_add_one.mpr (show 0 < fuel by omega)
      rw [List.append_assoc, List.singleton_append, stringBytes_escape read (escape _),
        ih _ (by omega), Utf8.spell_cons, List.reverse_append, List.reverse_reverse,
        List.append_assoc]
    | plain written plain =>
      rw [written, Utf8.spell_cons, Utf8.spell_nil, List.append_nil] at enough ⊢
      rw [List.length_append] at enough
      -- Bytes that stand for themselves cost one step each.
      obtain ⟨left, rfl⟩ : ∃ left, fuel = left + (String.utf8EncodeChar char).length :=
        ⟨fuel - (String.utf8EncodeChar char).length, by omega⟩
      rw [stringBytes_plain plain, ih _ (by omega), Utf8.spell_cons, List.reverse_append,
        List.reverse_reverse, List.append_assoc]

/-- A text is read back behind its opening quote. -/
theorem stringBody_escaped (text : String) (rest : Bytes) :
    stringBody (spell (text.toList.flatMap escape) ++ 0x22 :: rest) = .ok (text, rest) := by
  -- There is fuel for every byte and the quote.
  have enough : (spell (text.toList.flatMap escape)).length
      < (spell (text.toList.flatMap escape) ++ 0x22 :: rest).length + 1 := by
    rw [List.length_append]
    omega
  have read := stringBytes_escaped text.toList [] rest enough
  rw [List.reverse_nil, List.nil_append] at read
  -- The bytes that were read are those of the text.
  simp only [stringBody, read, Bind.bind, Except.bind, Utf8.decode?_spell, String.ofList_toList]

end EngineClient.Json
