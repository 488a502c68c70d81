import EngineClient.Bytes
import EngineClient.Text.Printable

/-! Quoted texts: what cannot be shown as it is becomes an escape. -/

namespace EngineClient.Quoted

/-- The lower-case hexadecimal digits of a number, most significant first, before `tail`. -/
def hexDigits (value : Nat) (tail : List Char) : List Char :=
  if value < 16 then Bytes.hexDigit value :: tail
  else hexDigits (value / 16) (Bytes.hexDigit (value % 16) :: tail)

/-- One character of a quoted text. -/
def escape (char : Char) : List Char :=
  if char = '\x00' then ['\\', '0']
  else if char = '\t' then ['\\', 't']
  else if char = '\r' then ['\\', 'r']
  else if char = '\n' then ['\\', 'n']
  else if char = '\\' then ['\\', '\\']
  else if char = '"' then ['\\', '"']
  else if Text.isPlain char then [char]
  else ['\\', 'u', '{'] ++ hexDigits char.toNat ['}']

/-- The characters of a text between double quotes, escaped where needed. -/
def quoteList (text : List Char) : List Char :=
  '"' :: text.flatMap escape ++ ['"']

/-- A text between double quotes, escaped where needed. -/
def quote (text : String) : String :=
  String.ofList (quoteList text.toList)

end EngineClient.Quoted
