import EngineClient.Bytes
import EngineClient.Json.Value

/-! JSON documents as text, either on one line or indented. -/

namespace EngineClient.Json

/-- One character of a JSON text. -/
def escape (char : Char) : List Char :=
  if char = '"' then ['\\', '"']
  else if char = '\\' then ['\\', '\\']
  else if char = '\x08' then ['\\', 'b']
  else if char = '\x0C' then ['\\', 'f']
  else if char = '\n' then ['\\', 'n']
  else if char = '\r' then ['\\', 'r']
  else if char = '\t' then ['\\', 't']
  else if char.toNat < 0x20 then
    ['\\', 'u', '0', '0', Bytes.hexDigit (char.toNat / 16), Bytes.hexDigit (char.toNat % 16)]
  else [char]

/-- A text between double quotes. -/
def quote (text : String) : List Char :=
  '"' :: text.toList.flatMap escape ++ ['"']

mutual

/-- The document on one line, without blanks. -/
def compactList : Json → List Char
  | .null => ['n', 'u', 'l', 'l']
  | .bool true => ['t', 'r', 'u', 'e']
  | .bool false => ['f', 'a', 'l', 's', 'e']
  | .number value => value.render.toList
  | .string text => quote text
  | .array items => '[' :: compactItems items ++ [']']
  | .object fields => '{' :: compactFields fields ++ ['}']

/-- Documents with commas between them. -/
def compactItems : List Json → List Char
  | [] => []
  | [item] => compactList item
  | item :: rest => compactList item ++ ',' :: compactItems rest

/-- Named documents with commas between them. -/
def compactFields : List (String × Json) → List Char
  | [] => []
  | [(name, value)] => quote name ++ ':' :: compactList value
  | (name, value) :: rest => quote name ++ ':' :: compactList value ++ ',' :: compactFields rest

end

/-- The document on one line. -/
def compact (document : Json) : String :=
  String.ofList document.compactList

/-- A new line, two blanks in for each level. -/
def newLine (level : Nat) : List Char :=
  '\n' :: List.replicate (2 * level) ' '

mutual

/-- The document over several lines, its members one level further in. -/
def prettyList (level : Nat) : Json → List Char
  | .array [] => ['[', ']']
  | .array items => '[' :: prettyItems (level + 1) items ++ newLine level ++ [']']
  | .object [] => ['{', '}']
  | .object fields => '{' :: prettyFields (level + 1) fields ++ newLine level ++ ['}']
  | .null => ['n', 'u', 'l', 'l']
  | .bool true => ['t', 'r', 'u', 'e']
  | .bool false => ['f', 'a', 'l', 's', 'e']
  | .number value => value.render.toList
  | .string text => quote text

/-- Documents on lines of their own. -/
def prettyItems (level : Nat) : List Json → List Char
  | [] => []
  | [item] => newLine level ++ prettyList level item
  | item :: rest => newLine level ++ prettyList level item ++ ',' :: prettyItems level rest

/-- Named documents on lines of their own. -/
def prettyFields (level : Nat) : List (String × Json) → List Char
  | [] => []
  | [(name, value)] => newLine level ++ quote name ++ ':' :: ' ' :: prettyList level value
  | (name, value) :: rest =>
    newLine level ++ quote name ++ ':' :: ' ' :: prettyList level value
      ++ ',' :: prettyFields level rest

end

/-- The document over several lines, indented by two blanks a level. -/
def pretty (document : Json) : String :=
  String.ofList (document.prettyList 0)

end EngineClient.Json
