/-! Byte strings, their hexadecimal form and the numbers they hold. -/

namespace EngineClient

/-- A byte string, first byte first. -/
abbrev Bytes := List UInt8

namespace Bytes

/-- The lower-case hexadecimal digit of a number below sixteen. -/
def hexDigit (value : Nat) : Char :=
  if value < 10 then Char.ofNat ('0'.toNat + value) else Char.ofNat ('a'.toNat + (value - 10))

/-- Two lower-case hexadecimal digits per byte, the high half first. -/
def toHex (bytes : Bytes) : String :=
  String.ofList (bytes.flatMap fun byte =>
    [hexDigit (byte.toNat / 16), hexDigit (byte.toNat % 16)])

/-- The value of a hexadecimal digit of either case. -/
def hexValue? (digit : Char) : Option Nat :=
  if '0' ≤ digit ∧ digit ≤ '9' then some (digit.toNat - '0'.toNat)
  else if 'a' ≤ digit ∧ digit ≤ 'f' then some (digit.toNat - 'a'.toNat + 10)
  else if 'A' ≤ digit ∧ digit ≤ 'F' then some (digit.toNat - 'A'.toNat + 10)
  else none

/-- The bytes that a run of digit pairs spells, collected in reverse onto `read`. -/
def ofHexDigits? (read : Bytes) : List Char → Option Bytes
  | [] => some read.reverse
  | [_] => none
  | high :: low :: rest =>
    match hexValue? high, hexValue? low with
    | some h, some l => ofHexDigits? (UInt8.ofNat (h * 16 + l) :: read) rest
    | _, _ => none

/-- Reads digit pairs back into bytes. -/
def ofHex? (text : String) : Option Bytes :=
  ofHexDigits? [] text.toList

/-- The number whose base-256 digits are the bytes, least significant first. -/
def toNat : Bytes → Nat
  | [] => 0
  | byte :: rest => byte.toNat + 256 * toNat rest

/-- The number the bytes hold in two's complement, least significant byte first. -/
def toInt (bytes : Bytes) : Int :=
  Int.bmod (toNat bytes) (Nat.pow 2 (8 * bytes.length))

end Bytes

end EngineClient
