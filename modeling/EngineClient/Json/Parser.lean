import EngineClient.Json.Numeral
import EngineClient.Text.Utf8

/-! Reading JSON documents, with the place of the first fault. -/

namespace EngineClient.Json

/-- The bytes that may stand between the parts of a document. -/
def isSpace (byte : UInt8) : Bool :=
  byte = 0x20 || byte = 0xA || byte = 0x9 || byte = 0xD

/-- The bytes from the first one that is no space. -/
def skipSpace (bytes : Bytes) : Bytes :=
  bytes.dropWhile isSpace

/-- The value of a hexadecimal digit of either case. -/
def hexValue? (byte : UInt8) : Option Nat :=
  Bytes.hexValue? (Char.ofNat byte.toNat)

/-- Reads the four digits of an escape. -/
def fourHex (bytes : Bytes) : Parsed Nat :=
  match bytes with
  | a :: b :: c :: d :: rest =>
    match hexValue? a, hexValue? b, hexValue? c, hexValue? d with
    | some a, some b, some c, some d => .ok (((a * 16 + b) * 16 + c) * 16 + d, rest)
    | _, _, _, _ => .error (.before .invalidEscape rest)
  | _ => .error (.before .endInString [])

/-- The bytes that spell the character of a code. -/
def codeBytes (code : Nat) : Bytes :=
  String.utf8EncodeChar (Char.ofNat code)

/-- Reads one byte that must be `wanted` for a pair of escapes to go on. -/
def pairByte (wanted : UInt8) (bytes : Bytes) : Except Stop Bytes :=
  match bytes with
  | [] => .error (.before .endInString [])
  | byte :: rest => if byte = wanted then .ok rest else .error (.before .unfinishedPair rest)

/-- Reads the digits of an escaped code, and of the second one where two make a character. -/
def codeEscape (bytes : Bytes) : Except Stop (Bytes × Bytes) := do
  let (first, rest) ← fourHex bytes
  if 0xDC00 ≤ first ∧ first ≤ 0xDFFF then .error (.before .loneSurrogate rest)
  else if first < 0xD800 ∨ 0xDBFF < first then .ok (codeBytes first, rest)
  else
    let rest ← pairByte 0x5C rest
    let rest ← pairByte 0x75 rest
    let (second, rest) ← fourHex rest
    if second < 0xDC00 ∨ 0xDFFF < second then .error (.before .loneSurrogate rest)
    else .ok (codeBytes ((first - 0xD800) * 0x400 + (second - 0xDC00) + 0x10000), rest)

/-- Reads an escape behind its backslash. -/
def escaped (bytes : Bytes) : Parsed Bytes :=
  match bytes with
  | [] => .error (.before .endInString [])
  | 0x22 :: rest => .ok ([0x22], rest)
  | 0x5C :: rest => .ok ([0x5C], rest)
  | 0x2F :: rest => .ok ([0x2F], rest)
  | 0x62 :: rest => .ok ([0x8], rest)
  | 0x66 :: rest => .ok ([0xC], rest)
  | 0x6E :: rest => .ok ([0xA], rest)
  | 0x72 :: rest => .ok ([0xD], rest)
  | 0x74 :: rest => .ok ([0x9], rest)
  | 0x75 :: rest => codeEscape rest
  | _ :: rest => .error (.before .invalidEscape rest)

/-- Reads the bytes of a text up to its closing quote, collected in reverse onto `read`. -/
def stringBytes (read : Bytes) (bytes : Bytes) : Nat → Parsed Bytes
  | 0 => .error (.before .endInString bytes)
  | fuel + 1 =>
    match bytes with
    | [] => .error (.before .endInString [])
    | 0x22 :: rest => .ok (read.reverse, rest)
    | 0x5C :: rest =>
      match escaped rest with
      | .ok (spelled, rest) => stringBytes (spelled.reverse ++ read) rest fuel
      | .error stop => .error stop
    | byte :: rest =>
      if byte < 0x20 then .error (.before .controlCharacter rest)
      else stringBytes (byte :: read) rest fuel

/-- What stands behind the first byte that belongs to no character. -/
def behindFault (bytes : Bytes) : Bytes :=
  match Utf8.decode bytes with
  | .ok _ => []
  | .error fault => bytes.drop (fault.index + 1)

/-- Reads a text behind its opening quote. -/
def stringBody (bytes : Bytes) : Except Stop (String × Bytes) := do
  let (spelled, rest) ← stringBytes [] bytes (bytes.length + 1)
  match Utf8.decode? spelled with
  | some text => .ok (text, rest)
  -- Escapes spell whole characters, so that the fault lies in what was not escaped.
  | none => .error (.before .invalidCodePoint (behindFault bytes))

/-- Reads the rest of a word. -/
def word (expected : Bytes) (value : Json) (bytes : Bytes) : Parsed Json :=
  match expected with
  | [] => .ok (value, bytes)
  | wanted :: more =>
    match bytes with
    | [] => .error (.before .endInValue [])
    | byte :: rest =>
      if byte = wanted then word more value rest else .error (.before .expectedIdent rest)

/-- How many lists and objects may be open at one place. -/
def depthLimit : Nat := 127

/-- Reads the colon behind a name. -/
def colon (bytes : Bytes) : Except Stop Bytes :=
  match skipSpace bytes with
  | [] => .error (.at .endInObject [])
  | 0x3A :: rest => .ok rest
  | rest => .error (.at .expectedColon rest)

/-- Finds the next member of a list or its end, the first one without a comma. -/
def nextItem (first : Bool) (bytes : Bytes) : Except Stop (Option Bytes × Bytes) :=
  match skipSpace bytes with
  | [] => .error (.at .endInList [])
  | 0x5D :: rest => .ok (none, rest)
  | byte :: rest =>
    if first then .ok (some (byte :: rest), [])
    else if byte = 0x2C then
      match skipSpace rest with
      | [] => .error (.at .endInValue [])
      | 0x5D :: rest => .error (.at .trailingComma (0x5D :: rest))
      | rest => .ok (some rest, [])
    else .error (.at .expectedListEnd (byte :: rest))

/-- Finds the next name of an object behind its quote, or the object's end. -/
def nextName (first : Bool) (bytes : Bytes) : Except Stop (Option Bytes × Bytes) :=
  match skipSpace bytes with
  | [] => .error (.at .endInObject [])
  | 0x7D :: rest => .ok (none, rest)
  | byte :: rest =>
    if first then
      if byte = 0x22 then .ok (some rest, []) else .error (.at .keyNotString (byte :: rest))
    else if byte = 0x2C then
      match skipSpace rest with
      | [] => .error (.at .endInValue [])
      | 0x22 :: rest => .ok (some rest, [])
      | 0x7D :: rest => .error (.at .trailingComma (0x7D :: rest))
      | rest => .error (.at .keyNotString rest)
    else .error (.at .expectedObjectEnd (byte :: rest))

mutual

/-- Reads a value inside at most `depth` further lists and objects. -/
def value (depth : Nat) (bytes : Bytes) : Nat → Parsed Json
  | 0 => .error (.before .endInValue bytes)
  | fuel + 1 =>
    match skipSpace bytes with
    | [] => .error (.at .endInValue [])
    | 0x6E :: rest => word [0x75, 0x6C, 0x6C] .null rest
    | 0x74 :: rest => word [0x72, 0x75, 0x65] (.bool true) rest
    | 0x66 :: rest => word [0x61, 0x6C, 0x73, 0x65] (.bool false) rest
    | 0x22 :: rest =>
      match stringBody rest with
      | .ok (text, rest) => .ok (.string text, rest)
      | .error stop => .error stop
    | 0x2D :: rest =>
      match numeral false rest with
      | .ok (read, rest) => .ok (.number read, rest)
      | .error stop => .error stop
    | 0x5B :: rest =>
      match depth with
      | 0 => .error (.at .tooDeep (0x5B :: rest))
      | depth + 1 => items depth true [] rest fuel
    | 0x7B :: rest =>
      match depth with
      | 0 => .error (.at .tooDeep (0x7B :: rest))
      | depth + 1 => members depth true [] rest fuel
    | byte :: rest =>
      if isDigit byte then
        match numeral true (byte :: rest) with
        | .ok (read, rest) => .ok (.number read, rest)
        | .error stop => .error stop
      else .error (.at .expectedValue (byte :: rest))

/-- Reads the members of a list to its end, collected in reverse onto `read`. -/
def items (depth : Nat) (first : Bool) (read : List Json) (bytes : Bytes) : Nat → Parsed Json
  | 0 => .error (.before .endInList bytes)
  | fuel + 1 =>
    match nextItem first bytes with
    | .error stop => .error stop
    | .ok (none, rest) => .ok (.array read.reverse, rest)
    | .ok (some start, _) =>
      match value depth start fuel with
      | .error stop => .error stop
      | .ok (item, rest) => items depth false (item :: read) rest fuel

/-- Reads the members of an object to its end, set one after another into `read`. -/
def members (depth : Nat) (first : Bool) (read : Fields) (bytes : Bytes) : Nat → Parsed Json
  | 0 => .error (.before .endInObject bytes)
  | fuel + 1 =>
    match nextName first bytes with
    | .error stop => .error stop
    | .ok (none, rest) => .ok (.object read, rest)
    | .ok (some start, _) =>
      match stringBody start with
      | .error stop => .error stop
      | .ok (name, rest) =>
        match colon rest with
        | .error stop => .error stop
        | .ok rest =>
          match value depth rest fuel with
          | .error stop => .error stop
          | .ok (item, rest) => members depth false (read.put name item) rest fuel

end

/-- Reads a document that takes up all the bytes. -/
def document (bytes : Bytes) : Except Stop Json := do
  -- Every step of the reader but the last of each list takes a byte.
  let (value, rest) ← value depthLimit bytes (2 * bytes.length + 2)
  match skipSpace rest with
  | [] => .ok value
  | rest => .error (.at .trailingCharacters rest)

/-- The line and column of the place with `left` bytes behind it. -/
def Fault.locate (bytes : Bytes) (stop : Stop) : Fault :=
  let before := bytes.take (bytes.length - stop.left)
  let lineStart := before.reverse.takeWhile (· ≠ 0xA)
  ⟨stop.kind, before.count 0xA + 1, lineStart.length⟩

/-- Reads a document that takes up all the bytes, or says what is wrong with them. -/
def parse (bytes : Bytes) : Except Fault Json :=
  match document bytes with
  | .ok value => .ok value
  | .error stop => .error (Fault.locate bytes stop)

end EngineClient.Json
