/-! The ways in which bytes fail to be a JSON document. -/

namespace EngineClient.Json

/-- What is wrong with a JSON text at one place. -/
inductive FaultKind where
  /-- The text ends where a value is due. -/
  | endInValue
  /-- The text ends inside a text. -/
  | endInString
  /-- The text ends inside a list. -/
  | endInList
  /-- The text ends inside an object. -/
  | endInObject
  /-- A word other than `true`, `false` and `null`. -/
  | expectedIdent
  /-- A character that begins no value. -/
  | expectedValue
  /-- A name without its colon. -/
  | expectedColon
  /-- Neither a comma nor the end of a list. -/
  | expectedListEnd
  /-- Neither a comma nor the end of an object. -/
  | expectedObjectEnd
  /-- A name that is no text. -/
  | keyNotString
  /-- A comma with nothing behind it. -/
  | trailingComma
  /-- Something behind the document. -/
  | trailingCharacters
  /-- A number that is not written as one. -/
  | invalidNumber
  /-- A number beyond the greatest double. -/
  | numberOutOfRange
  /-- An unknown escape, or one with bad digits. -/
  | invalidEscape
  /-- Bytes that are no text. -/
  | invalidCodePoint
  /-- A control character that is not escaped. -/
  | controlCharacter
  /-- Half of an escaped pair without the other half. -/
  | loneSurrogate
  /-- A first half of an escaped pair with no escape behind it. -/
  | unfinishedPair
  /-- Lists and objects nested too deeply. -/
  | tooDeep
deriving DecidableEq, Repr

/-- The kind of fault in words. -/
def FaultKind.message : FaultKind → String
  | .endInValue => "EOF while parsing a value"
  | .endInString => "EOF while parsing a string"
  | .endInList => "EOF while parsing a list"
  | .endInObject => "EOF while parsing an object"
  | .expectedIdent => "expected ident"
  | .expectedValue => "expected value"
  | .expectedColon => "expected `:`"
  | .expectedListEnd => "expected `,` or `]`"
  | .expectedObjectEnd => "expected `,` or `\x7d`"
  | .keyNotString => "key must be a string"
  | .trailingComma => "trailing comma"
  | .trailingCharacters => "trailing characters"
  | .invalidNumber => "invalid number"
  | .numberOutOfRange => "number out of range"
  | .invalidEscape => "invalid escape"
  | .invalidCodePoint => "invalid unicode code point"
  | .controlCharacter => "control character (\\u0000-\\u001F) found while parsing a string"
  | .loneSurrogate => "lone leading surrogate in hex escape"
  | .unfinishedPair => "unexpected end of hex escape"
  | .tooDeep => "recursion limit exceeded"

/-- A fault and its place, lines counted from one. -/
structure Fault where
  /-- What is wrong. -/
  kind : FaultKind
  /-- The line of the fault. -/
  line : Nat
  /-- How many bytes of the line were read when it was found. -/
  column : Nat
deriving DecidableEq, Repr

/-- The fault in words. -/
def Fault.message (fault : Fault) : String :=
  fault.kind.message ++ " at line " ++ toString fault.line ++ " column " ++ toString fault.column

end EngineClient.Json
