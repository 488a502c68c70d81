import EngineClient.Text.Quoted

/-! What a quoted text spells: each escape is read back, and the closing quote is the first bare one. -/

namespace EngineClient.Quoted

/-- Reads hexadecimal digits up to a closing brace onto the number read so far. -/
def readHex? (read : Nat) : List Char → Option (Nat × List Char)
  | [] => none
  | char :: rest =>
    if char = '}' then some (read, rest)
    else match Bytes.hexValue? char with
      | some digit => readHex? (read * 16 + digit) rest
      | none => none

/-- Reads what stands behind a backslash. -/
def readEscape? : List Char → Option (Char × List Char)
  | '0' :: rest => some ('\x00', rest)
  | 't' :: rest => some ('\t', rest)
  | 'r' :: rest => some ('\r', rest)
  | 'n' :: rest => some ('\n', rest)
  | '\\' :: rest => some ('\\', rest)
  | '"' :: rest => some ('"', rest)
  | 'u' :: '{' :: rest => (readHex? 0 rest).map fun found => (Char.ofNat found.1, found.2)
  | _ => none

/-- Reads one character of a quoted text, and none at its closing quote. -/
def readChar? : List Char → Option (Char × List Char)
  | [] => none
  | char :: rest =>
    if char = '"' then none
    else if char = '\\' then readEscape? rest
    else some (char, rest)

/-- A hexadecimal digit is read back, and is no closing brace. -/
theorem hexDigit_read (digit : Fin 16) :
    Bytes.hexDigit digit ≠ '}' ∧ Bytes.hexValue? (Bytes.hexDigit digit) = some digit.val := by
  revert digit
  decide

/-- A hexadecimal number is read back in front of anything. -/
theorem readHex?_hexDigits (value : Nat) (tail : List Char) :
    readHex? 0 (hexDigits value tail) = readHex? value tail := by
  -- The induction is on the digits: the last one goes in front of the tail, and the others before it.
  induction value using Nat.strongRecOn generalizing tail with
  | ind value ih =>
    rw [hexDigits]
    split
    · rename_i small
      obtain ⟨noBrace, read⟩ := hexDigit_read ⟨value, small⟩
      simp only [readHex?, if_neg noBrace, read, Nat.zero_mul, Nat.zero_add]
    · rename_i large
      obtain ⟨noBrace, read⟩ := hexDigit_read ⟨value % 16, by omega⟩
      rw [ih (value / 16) (by omega)]
      simp only [readHex?, if_neg noBrace, read]
      rw [Nat.div_add_mod']

/-- What stands behind a hexadecimal number may be taken for a part of its tail. -/
theorem hexDigits_append (value : Nat) (tail rest : List Char) :
    hexDigits value tail ++ rest = hexDigits value (tail ++ rest) := by
  -- The induction is on the digits, which all go in front.
  induction value using Nat.strongRecOn generalizing tail with
  | ind value ih =>
    rw [hexDigits, hexDigits.eq_1 value (tail ++ rest)]
    split
    · rfl
    · exact ih (value / 16) (by omega) _

/-- Every character is read back from the way in which it is written. -/
theorem readChar?_escape (char : Char) (rest : List Char) :
    readChar? (escape char ++ rest) = some (char, rest) := by
  -- Six characters have a letter of their own, and all others stand for themselves or have a number.
  by_cases null : char = '\x00'
  · subst null; rfl
  by_cases tab : char = '\t'
  · subst tab; rfl
  by_cases carriage : char = '\r'
  · subst carriage; rfl
  by_cases line : char = '\n'
  · subst line; rfl
  by_cases backslash : char = '\\'
  · subst backslash; rfl
  by_cases quoted : char = '"'
  · subst quoted; rfl
  rw [escape, if_neg null, if_neg tab, if_neg carriage, if_neg line, if_neg backslash, if_neg quoted]
  -- A plain character stands for itself, and any other one is written by its number.
  by_cases plain : Text.isPlain char = true
  · rw [if_pos plain, List.singleton_append, readChar?, if_neg quoted, if_neg backslash]
  · have number : readHex? 0 (hexDigits char.toNat ['}'] ++ rest) = some (char.toNat, rest) := by
      rw [hexDigits_append, readHex?_hexDigits]
      rfl
    rw [if_neg plain]
    show (readHex? 0 (hexDigits char.toNat ['}'] ++ rest)).map _ = _
    rw [number, Option.map_some, Char.ofNat_toNat]

/-- A quoted text and what follows it tell the text and what follows it. -/
theorem quoteList_append_inj {text other rest behind : List Char}
    (same : quoteList text ++ rest = quoteList other ++ behind) : text = other ∧ rest = behind := by
  -- The opening quotes are gone first; then one character after the other is read of both sides.
  have bodies : text.flatMap escape ++ '"' :: rest = other.flatMap escape ++ '"' :: behind := by
    simpa [quoteList] using same
  clear same
  induction text generalizing other with
  | nil => cases other with
    | nil => exact ⟨rfl, by simpa using bodies⟩
    | cons char other =>
      -- A closing quote is no character.
      have read := congrArg readChar? bodies
      rw [List.flatMap_cons, List.append_assoc, readChar?_escape] at read
      cases read
  | cons char text ih =>
    have read := congrArg readChar? bodies
    rw [List.flatMap_cons, List.append_assoc, readChar?_escape] at read
    cases other with
    | nil => cases read
    | cons char' other =>
      rw [List.flatMap_cons, List.append_assoc, readChar?_escape] at read
      simp only [Option.some.injEq, Prod.mk.injEq] at read
      obtain ⟨rfl, others⟩ := read
      -- The first characters are the same, and so are the others.
      obtain ⟨rfl, rfl⟩ := ih others
      exact ⟨rfl, rfl⟩

end EngineClient.Quoted
