import EngineClient.Bytes
import EngineClient.Json.Fault
import EngineClient.Json.Value
import EngineClient.Text.Unsigned

/-! Numbers in a JSON text. -/

namespace EngineClient.Json

/-- Where reading stopped, and why. -/
structure Stop where
  /-- What is wrong. -/
  kind : FaultKind
  /-- How many bytes lie behind the place of the fault. -/
  left : Nat
deriving DecidableEq, Repr

/-- A fault in front of the bytes still to be read. -/
def Stop.before (kind : FaultKind) (rest : Bytes) : Stop :=
  ⟨kind, rest.length⟩

/-- A fault at the first of the bytes still to be read, or at the end. -/
def Stop.at (kind : FaultKind) (rest : Bytes) : Stop :=
  ⟨kind, rest.length - 1⟩

/-- A value that was read together with the bytes behind it. -/
abbrev Parsed (α : Type) := Except Stop (α × Bytes)

/-- Whether a byte is a decimal digit. -/
def isDigit (byte : UInt8) : Bool :=
  0x30 ≤ byte && byte ≤ 0x39

/-- The value of a digit. -/
def digitValue (byte : UInt8) : Nat :=
  byte.toNat - 0x30

/-- Appends digits to a number while it stays within sixty-four bits, and counts the others. -/
def absorb (read : Nat) : Bytes → Nat × Nat
  | [] => (read, 0)
  | digit :: rest =>
    let grown := read * 10 + digitValue digit
    if grown ≤ Unsigned.max64 then absorb grown rest else (read, rest.length + 1)

/-- Divides by the greatest table power of ten until the remaining power is in the table. -/
def divideDown (number : Double) (power : Nat) : Nat → Double
  | 0 => number
  | steps + 1 =>
    if power ≤ 308 then number.quotient (Double.tenPow power)
    else if number.isZero then number
    else divideDown (number.quotient (Double.tenPow 308)) (power - 308) steps

/-- The double `significand * 10 ^ power`, rounded after each step, if it is finite. -/
def scaleByTen (significand : Nat) (power : Int) : Option Double :=
  let start := Double.ofNat significand
  match power with
  | .ofNat up =>
    if up ≤ 308 then
      let product := start.times (Double.tenPow up)
      if product.isInfinite then none else some product
    -- Zero is zero at any power, and nothing else fits beyond the table.
    else if start.isZero then some start else none
  | .negSucc down => some (divideDown start (down + 1) (down / 308 + 2))

/-- Gives a double its sign, or refuses it where it is not finite. -/
def signDouble (positive : Bool) (number : Option Double) (rest : Bytes) : Parsed Number :=
  match number with
  | some value => .ok (.double (if positive then value else value.negate), rest)
  | none => .error (.before .numberOutOfRange rest)

/-- The greatest power of ten that is read exactly. -/
def maxPower : Nat := Nat.pow 2 31 - 1

/-- Reads the digits of a power of ten, or the bytes behind the one that makes it too great. -/
def readPower (read : Nat) : Bytes → Except Bytes (Nat × Bytes)
  | [] => .ok (read, [])
  | byte :: rest =>
    if isDigit byte then
      let grown := read * 10 + digitValue byte
      if grown ≤ maxPower then readPower grown rest else .error rest
    else .ok (read, byte :: rest)

/-- Reads what follows the exponent mark of a number. -/
def exponentPart (positive : Bool) (significand : Nat) (power : Int) (bytes : Bytes) :
    Parsed Number :=
  let (upward, bytes) := match bytes with
    | 0x2B :: rest => (true, rest)
    | 0x2D :: rest => (false, rest)
    | rest => (true, rest)
  match bytes with
  | [] => .error (.before .endInValue [])
  | byte :: rest =>
    if isDigit byte then
      match readPower (digitValue byte) rest with
      | .ok (shift, rest) =>
        let power := if upward then power + shift else power - shift
        signDouble positive (scaleByTen significand power) rest
      | .error rest =>
        -- A power that large leaves nothing but zero, or nothing at all.
        if significand ≠ 0 ∧ upward then .error (.before .numberOutOfRange rest)
        else signDouble positive (some (Double.ofNat 0)) (rest.dropWhile isDigit)
    else .error (.before .invalidNumber rest)

/-- Reads an exponent mark and what follows it, if there is one. -/
def exponentOrEnd (positive : Bool) (significand : Nat) (power : Int) (bytes : Bytes) :
    Parsed Number :=
  match bytes with
  | 0x65 :: rest => exponentPart positive significand power rest
  | 0x45 :: rest => exponentPart positive significand power rest
  | rest => signDouble positive (scaleByTen significand power) rest

/-- Reads what follows the decimal point of a number. -/
def fractionPart (positive : Bool) (significand : Nat) (power : Int) (bytes : Bytes) :
    Parsed Number :=
  let digits := bytes.takeWhile isDigit
  let rest := bytes.dropWhile isDigit
  if digits.isEmpty then
    match rest with
    | [] => .error (.at .endInValue [])
    | rest => .error (.at .invalidNumber rest)
  else
    -- Digits that no longer fit the significand are dropped.
    let (significand, dropped) := absorb significand digits
    exponentOrEnd positive significand (power - (digits.length - dropped : Nat)) rest

/-- Reads what follows the whole part of a number, of which `dropped` digits did not fit. -/
def afterWhole (positive : Bool) (significand dropped : Nat) (bytes : Bytes) : Parsed Number :=
  match bytes with
  | 0x2E :: rest => fractionPart positive significand dropped rest
  | 0x65 :: rest => exponentPart positive significand dropped rest
  | 0x45 :: rest => exponentPart positive significand dropped rest
  | rest =>
    if dropped ≠ 0 then signDouble positive (scaleByTen significand dropped) rest
    else if positive then .ok (.int significand, rest)
    -- Minus zero and what lies below the least whole number become doubles.
    else if significand = 0 ∨ Nat.pow 2 63 < significand then
      .ok (.double (Double.ofNat significand).negate, rest)
    else .ok (.int (-significand), rest)

/-- Reads a number behind its sign. -/
def numeral (positive : Bool) (bytes : Bytes) : Parsed Number :=
  match bytes with
  | [] => .error (.before .endInValue [])
  | 0x30 :: rest =>
    match rest with
    | byte :: _ =>
      -- A zero in front of other digits is refused.
      if isDigit byte then .error (.at .invalidNumber rest)
      else afterWhole positive 0 0 rest
    | [] => afterWhole positive 0 0 []
  | byte :: rest =>
    if isDigit byte then
      let digits := rest.takeWhile isDigit
      let (significand, dropped) := absorb (digitValue byte) digits
      afterWhole positive significand dropped (rest.dropWhile isDigit)
    else .error (.before .invalidNumber rest)

end EngineClient.Json
