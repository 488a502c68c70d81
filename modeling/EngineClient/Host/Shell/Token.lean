/-! Shell scripts as words and operators. -/

namespace EngineClient.Shell

/-- A part of a word. -/
inductive Piece where
  /-- A character that stands for itself. -/
  | char (char : Char)
  /-- The value of a variable, which is kept in one word where it was quoted. -/
  | variable (name : String) (quoted : Bool)
deriving DecidableEq, Repr

/-- A word. -/
structure Word where
  /-- The parts of the word. -/
  pieces : List Piece := []
  /-- Whether something of it was quoted, so that it is a word even if it is empty. -/
  quoted : Bool := false
deriving DecidableEq, Repr

/-- A word or an operator. -/
inductive Token where
  /-- A word. -/
  | word (word : Word)
  /-- What stands between commands. -/
  | operator (text : String)
  /-- A redirection of a numbered stream; the word behind it says where to. -/
  | redirect (stream : Option Nat) (text : String)
deriving DecidableEq, Repr

/-- What quotes the character at hand. -/
inductive Quoting where
  /-- Nothing. -/
  | none
  /-- Single quotes. -/
  | single
  /-- Double quotes. -/
  | double
deriving DecidableEq, Repr

/-- A script taken apart up to some place. -/
structure Lexing where
  /-- What quotes the next character. -/
  quoting : Quoting := .none
  /-- The word that was begun, its parts in reverse. -/
  word : Option Word := none
  /-- What was found before it, in reverse. -/
  tokens : List Token := []

namespace Lexing

/-- Ends the word that was begun. -/
def close (lexing : Lexing) : Lexing :=
  match lexing.word with
  | some word =>
    { lexing with
      word := none, tokens := .word { word with pieces := word.pieces.reverse } :: lexing.tokens }
  | none => lexing

/-- Adds a part to the word, which begins here if there is none. -/
def add (lexing : Lexing) (piece : Piece) : Lexing :=
  let word := lexing.word.getD {}
  { lexing with word := some { word with pieces := piece :: word.pieces } }

/-- Begins or ends a quoted part of a word. -/
def quote (lexing : Lexing) (quoting : Quoting) : Lexing :=
  { lexing with quoting, word := some { lexing.word.getD {} with quoted := true } }

/-- Adds an operator. -/
def operator (lexing : Lexing) (text : String) : Lexing :=
  let lexing := lexing.close
  { lexing with tokens := .operator text :: lexing.tokens }

/-- The number that a word is, if it is one digit. -/
def digit? (word : Option Word) : Option Nat :=
  match word with
  | some ⟨[.char char], false⟩ => if char.isDigit then some (char.toNat - '0'.toNat) else none
  | _ => none

/-- Adds a redirection, of the stream whose number stands right before it. -/
def redirect (lexing : Lexing) (text : String) : Lexing :=
  match digit? lexing.word with
  | some stream =>
    { lexing with word := none, tokens := .redirect (some stream) text :: lexing.tokens }
  | none =>
    let lexing := lexing.close
    { lexing with tokens := .redirect none text :: lexing.tokens }

end Lexing

/-- Whether a character can stand in the name of a variable. -/
def isNameChar (char : Char) : Bool :=
  char.isAlphanum || char = '_'

/-- The name of a variable behind its dollar sign, and the rest. -/
def variableName (chars : List Char) : Option (String × List Char) :=
  match chars with
  | '\x7b' :: rest =>
    match rest.dropWhile isNameChar with
    | '\x7d' :: behind => some (String.ofList (rest.takeWhile isNameChar), behind)
    | _ => none
  | char :: rest =>
    if char = '$' || char = '?' || char = '#' || char.isDigit then some (char.toString, rest)
    else if isNameChar char then
      some (String.ofList (chars.takeWhile isNameChar), chars.dropWhile isNameChar)
    else none
  | [] => none

/-- Takes a script apart, with a bound on the steps; `none` where a quote is not closed. -/
def lex (lexing : Lexing) (chars : List Char) : Nat → Option (List Token)
  | 0 => none
  | fuel + 1 =>
    match lexing.quoting, chars with
    | .none, [] => some lexing.close.tokens.reverse
    | _, [] => none
    | .single, '\'' :: rest => lex (lexing.quote .none) rest fuel
    | .single, char :: rest => lex (lexing.add (.char char)) rest fuel
    | .double, '"' :: rest => lex (lexing.quote .none) rest fuel
    | .double, '\\' :: char :: rest =>
      if char = '\n' then lex lexing rest fuel
      else if char = '"' || char = '\\' || char = '$' || char = '\x60' then
        lex (lexing.add (.char char)) rest fuel
      else lex ((lexing.add (.char '\\')).add (.char char)) rest fuel
    | .none, '\\' :: '\n' :: rest => lex lexing rest fuel
    | .none, '\\' :: char :: rest => lex ((lexing.quote .none).add (.char char)) rest fuel
    | .none, '\'' :: rest => lex (lexing.quote .single) rest fuel
    | .none, '"' :: rest => lex (lexing.quote .double) rest fuel
    | .none, '&' :: '&' :: rest => lex (lexing.operator "&&") rest fuel
    | .none, '|' :: '|' :: rest => lex (lexing.operator "||") rest fuel
    | .none, '>' :: '&' :: rest => lex (lexing.redirect ">&") rest fuel
    | .none, '<' :: '&' :: rest => lex (lexing.redirect "<&") rest fuel
    | .none, '>' :: '>' :: rest => lex (lexing.redirect ">") rest fuel
    | .none, '>' :: rest => lex (lexing.redirect ">") rest fuel
    | .none, '<' :: rest => lex (lexing.redirect "<") rest fuel
    | quoting, char :: rest =>
      if char = '$' then
        match variableName rest with
        | some (name, rest) =>
          lex (lexing.add (.variable name (quoting = .double))) rest fuel
        | none => lex (lexing.add (.char char)) rest fuel
      else if quoting = .double then lex (lexing.add (.char char)) rest fuel
      else if char = ' ' || char = '\t' then lex lexing.close rest fuel
      else if char = '\n' then lex (lexing.operator ";") rest fuel
      else if char = '#' && lexing.word.isNone then
        lex lexing (rest.dropWhile (· ≠ '\n')) fuel
      else if char = ';' || char = '|' || char = '&' || char = '(' || char = ')' then
        lex (lexing.operator char.toString) rest fuel
      else lex (lexing.add (.char char)) rest fuel

/-- The words and operators of a script; `none` where a quote is not closed. -/
def tokens (script : String) : Option (List Token) :=
  lex {} script.toList (script.toList.length + 1)

end EngineClient.Shell
