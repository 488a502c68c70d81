import EngineClient.Bytes

/-! Blank characters, and texts without the blanks around them. -/

namespace EngineClient.Text

/-- The characters with the Unicode property White_Space. -/
def isBlank (char : Char) : Bool :=
  let code := char.toNat
  (0x9 ≤ code && code ≤ 0xD) || code = 0x20 || code = 0x85 || code = 0xA0 || code = 0x1680
    || (0x2000 ≤ code && code ≤ 0x200A) || code = 0x2028 || code = 0x2029 || code = 0x202F
    || code = 0x205F || code = 0x3000

/-- A list without the members at its two ends that `drop` names. -/
def trimList {α : Type} (drop : α → Bool) (items : List α) : List α :=
  ((items.dropWhile drop).reverse.dropWhile drop).reverse

/-- A text without the blanks around it. -/
def trim (text : String) : String :=
  String.ofList (trimList isBlank text.toList)

/-- The bytes that separate words in an ASCII line: space, tab, newline, form feed, return. -/
def isBlankByte (byte : UInt8) : Bool :=
  byte = 0x20 || byte = 0x9 || byte = 0xA || byte = 0xC || byte = 0xD

/-- A line of bytes without the ASCII blanks around it. -/
def trimBytes (line : Bytes) : Bytes :=
  trimList isBlankByte line

/-- An ASCII letter in lower case, and any other character as it is. -/
def lowerAscii (text : String) : String :=
  String.ofList (text.toList.map Char.toLower)

/-- Whether `part` stands somewhere in `text`. -/
def hasPart (text part : List Char) : Bool :=
  part.isPrefixOf text || match text with
    | [] => false
    | _ :: rest => hasPart rest part

/-- The lines of a text, a return before the newline not counted in. -/
def lines (text : String) : List String :=
  let pieces := text.splitOn "\n"
  -- A final newline ends the last line and begins no other.
  let pieces := if pieces.getLast? = some "" then pieces.dropLast else pieces
  pieces.map fun piece => match piece.toList.reverse with
    | '\r' :: rest => String.ofList rest.reverse
    | _ => piece

end EngineClient.Text
