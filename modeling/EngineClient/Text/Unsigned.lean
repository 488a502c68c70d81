/-! Unsigned decimal numbers of a bounded size. -/

namespace EngineClient.Unsigned

/-- Why a text is no unsigned number of the size asked for. -/
inductive Fault where
  /-- There is no digit at all. -/
  | empty
  /-- A character that is no digit comes first. -/
  | invalidDigit
  /-- The digits read so far already exceed the bound. -/
  | tooLarge
deriving DecidableEq, Repr

/-- The fault in words. -/
def Fault.message : Fault → String
  | .empty => "cannot parse integer from empty string"
  | .invalidDigit => "invalid digit found in string"
  | .tooLarge => "number too large to fit in target type"

/-- Reads digits onto the number read so far, and stops at the first fault. -/
def readDigits (bound : Nat) (read : Nat) : List Char → Except Fault Nat
  | [] => .ok read
  | char :: rest =>
    if char.isDigit then
      let grown := read * 10 + (char.toNat - '0'.toNat)
      if grown ≤ bound then readDigits bound grown rest else .error .tooLarge
    else .error .invalidDigit

/-- Reads a number of at most `bound`: one plus sign may come first, then at least one digit. -/
def parseList (bound : Nat) : List Char → Except Fault Nat
  | [] => .error .empty
  | '+' :: [] => .error .invalidDigit
  | '+' :: digits => readDigits bound 0 digits
  | digits => readDigits bound 0 digits

/-- Reads a number of at most `bound` from a whole text. -/
def parse (bound : Nat) (text : String) : Except Fault Nat :=
  parseList bound text.toList

/-- The greatest number of sixteen bits. -/
def max16 : Nat := Nat.pow 2 16 - 1

/-- The greatest number of sixty-four bits. -/
def max64 : Nat := Nat.pow 2 64 - 1

end EngineClient.Unsigned
