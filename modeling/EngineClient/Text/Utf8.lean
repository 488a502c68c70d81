import EngineClient.Bytes

/-! UTF-8 read one byte at a time, either strictly or with a replacement for what is no character. -/

namespace EngineClient.Utf8

/-- The bytes that spell a text. -/
def encode (text : String) : Bytes :=
  text.toList.flatMap String.utf8EncodeChar

/-- A character of which some bytes are still owed. -/
structure Partial where
  /-- The bits read so far. -/
  code : Nat
  /-- How many bytes of the character have been read. -/
  taken : Nat
  /-- How many bytes it still lacks. -/
  owed : Nat
  /-- The least byte that may come next. -/
  low : Nat
  /-- The greatest byte that may come next. -/
  high : Nat
deriving DecidableEq, Repr

/-- What a byte means where a character may begin. -/
inductive Opening where
  /-- The byte is a whole character. -/
  | whole (char : Char)
  /-- The byte begins a longer character. -/
  | lead (first : Partial)
  /-- No character begins with the byte. -/
  | stray
deriving DecidableEq, Repr

/-- Sorts a byte that stands where a character may begin. -/
def opening (byte : Nat) : Opening :=
  -- The bounds on the second byte keep out overlong forms, surrogates and codes past the last one.
  if byte < 0x80 then .whole (Char.ofNat byte)
  else if byte < 0xC2 then .stray
  else if byte < 0xE0 then .lead ⟨byte - 0xC0, 1, 1, 0x80, 0xBF⟩
  else if byte = 0xE0 then .lead ⟨byte - 0xE0, 1, 2, 0xA0, 0xBF⟩
  else if byte = 0xED then .lead ⟨byte - 0xE0, 1, 2, 0x80, 0x9F⟩
  else if byte < 0xF0 then .lead ⟨byte - 0xE0, 1, 2, 0x80, 0xBF⟩
  else if byte = 0xF0 then .lead ⟨byte - 0xF0, 1, 3, 0x90, 0xBF⟩
  else if byte < 0xF4 then .lead ⟨byte - 0xF0, 1, 3, 0x80, 0xBF⟩
  else if byte = 0xF4 then .lead ⟨byte - 0xF0, 1, 3, 0x80, 0x8F⟩
  else .stray

/-- The unfinished character after one more of its bytes. -/
def Partial.add (pending : Partial) (byte : Nat) : Partial :=
  ⟨pending.code * 64 + (byte - 0x80), pending.taken + 1, pending.owed - 1, 0x80, 0xBF⟩

/-- Whether a byte continues the unfinished character. -/
def Partial.accepts (pending : Partial) (byte : Nat) : Bool :=
  pending.low ≤ byte && byte ≤ pending.high

/-- The character that stands in for bytes that spell none. -/
def replacement : Char := '\uFFFD'

/-- A lossy reading between two bytes. -/
structure Reading where
  /-- The characters so far, last one first. -/
  chars : List Char := []
  /-- The character whose bytes are still coming. -/
  pending : Option Partial := none
deriving DecidableEq, Repr

/-- Reads a byte that stands where a character may begin. -/
def Reading.openWith (chars : List Char) (byte : Nat) : Reading :=
  match opening byte with
  | .whole char => ⟨char :: chars, none⟩
  | .lead first => ⟨chars, some first⟩
  | .stray => ⟨replacement :: chars, none⟩

/-- Reads one more byte. -/
def Reading.step (reading : Reading) (byte : UInt8) : Reading :=
  match reading.pending with
  | none => openWith reading.chars byte.toNat
  | some pending =>
    if pending.accepts byte.toNat then
      let grown := pending.add byte.toNat
      if grown.owed = 0 then ⟨Char.ofNat grown.code :: reading.chars, none⟩
      else ⟨reading.chars, some grown⟩
    -- The abandoned character is replaced as one, and the byte is looked at afresh.
    else openWith (replacement :: reading.chars) byte.toNat

/-- The characters of a reading that no byte follows. -/
def Reading.close (reading : Reading) : List Char :=
  match reading.pending with
  | none => reading.chars.reverse
  | some _ => (replacement :: reading.chars).reverse

/-- The text of the bytes, with one replacement for each longest run that begins no character. -/
def decodeLossy (bytes : Bytes) : String :=
  String.ofList (bytes.foldl Reading.step {}).close

/-- Where and how bytes fail to be text. -/
structure Fault where
  /-- The first byte that belongs to no character. -/
  index : Nat
  /-- How many bytes are at fault, or `none` where the bytes end inside a character. -/
  width : Option Nat
deriving DecidableEq, Repr

/-- The fault in words. -/
def Fault.message (fault : Fault) : String :=
  match fault.width with
  | some width => s!"invalid utf-8 sequence of {width} bytes from index {fault.index}"
  | none => s!"incomplete utf-8 byte sequence from index {fault.index}"

/-- A strict reading between two bytes. -/
structure Strict where
  /-- The characters so far, last one first. -/
  chars : List Char := []
  /-- Where the next character begins. -/
  start : Nat := 0
  /-- The character whose bytes are still coming. -/
  pending : Option Partial := none

/-- Reads one more byte, unless it breaks the text. -/
def Strict.step (reading : Strict) (byte : UInt8) : Except Fault Strict :=
  match reading.pending with
  | none =>
    match opening byte.toNat with
    | .whole char => .ok ⟨char :: reading.chars, reading.start + 1, none⟩
    | .lead first => .ok { reading with pending := some first }
    | .stray => .error ⟨reading.start, some 1⟩
  | some pending =>
    if pending.accepts byte.toNat then
      let grown := pending.add byte.toNat
      if grown.owed = 0 then
        .ok ⟨Char.ofNat grown.code :: reading.chars, reading.start + grown.taken, none⟩
      else .ok { reading with pending := some grown }
    else .error ⟨reading.start, some pending.taken⟩

/-- The characters of a reading that no byte follows. -/
def Strict.close (reading : Strict) : Except Fault (List Char) :=
  match reading.pending with
  | none => .ok reading.chars.reverse
  | some _ => .error ⟨reading.start, none⟩

/-- The text of the bytes, or the first place where they are none. -/
def decode (bytes : Bytes) : Except Fault String := do
  let reading ← bytes.foldlM Strict.step {}
  return String.ofList (← reading.close)

/-- The text of the bytes, if they are one. -/
def decode? (bytes : Bytes) : Option String :=
  (decode bytes).toOption

end EngineClient.Utf8
