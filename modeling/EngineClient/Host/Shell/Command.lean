import EngineClient.Host.Shell.Token

/-! Shell commands, read from words and operators. -/

namespace EngineClient.Shell

/-- A redirection of a stream. -/
structure Redirect where
  /-- The stream. -/
  stream : Nat
  /-- How it is redirected. -/
  text : String
  /-- Where to. -/
  target : Word
deriving DecidableEq, Repr

/-- A command. -/
inductive Command where
  /-- Nothing. -/
  | nothing
  /-- A program with its arguments, or assignments alone. -/
  | simple (words : List Word) (redirects : List Redirect)
  /-- The first command's output is the second one's input. -/
  | pipe (first second : Command)
  /-- The second command runs where the first one succeeds, or where it fails. -/
  | guarded (onSuccess : Bool) (first second : Command)
  /-- One command after another. -/
  | sequence (first second : Command)
  /-- A command whose success counts as failure, and the other way round. -/
  | negated (command : Command)
  /-- The body runs as long as the condition succeeds. -/
  | loop (condition body : Command)
  /-- The body runs for every word. -/
  | each (name : Word) (words : List Word) (body : Command)
  /-- One of two commands runs. -/
  | choice (condition onSuccess onFailure : Command)
  /-- A command with redirections, run in a shell of its own or not. -/
  | group (own : Bool) (body : Command) (redirects : List Redirect)
deriving Inhabited, Repr

/-- A word that is written without quotes. -/
def bare (text : String) : Token :=
  .word ⟨text.toList.map .char, false⟩

/-- The words that end a list of commands. -/
def closers : List Token :=
  [bare "do", bare "done", bare "then", bare "elif", bare "else", bare "fi", bare "\x7d",
    .operator ")"]

/-- What reading brings: a command and what stands behind it, or nothing where none is written. -/
abbrev Reading := Option (Command × List Token)

/-- The redirections at the front, and the rest. -/
def redirects : List Token → List Redirect × List Token
  | .redirect stream text :: .word target :: rest =>
    let (others, rest) := redirects rest
    (⟨stream.getD (if text.startsWith "<" then 0 else 1), text, target⟩ :: others, rest)
  | rest => ([], rest)

/-- Reads a program with its arguments, those found so far in reverse. -/
def simple (words : List Word) (found : List Redirect) : List Token → Reading
  | .word word :: rest => simple (word :: words) found rest
  | .redirect stream text :: .word target :: rest =>
    simple words (⟨stream.getD (if text.startsWith "<" then 0 else 1), text, target⟩ :: found) rest
  | .redirect _ _ :: _ => none
  | rest =>
    if words.isEmpty && found.isEmpty then none
    else some (.simple words.reverse found.reverse, rest)

/-- The words up to the next operator. -/
def wordList : List Token → List Word × List Token
  | .word word :: rest =>
    let (words, rest) := wordList rest
    (word :: words, rest)
  | rest => ([], rest)

/-- Drops a token that must come next. -/
def expect (token : Token) : List Token → Option (List Token)
  | first :: rest => if first = token then some rest else none
  | [] => none

/-- Drops separators of commands. -/
def skipSeparators (tokens : List Token) : List Token :=
  tokens.dropWhile (· = .operator ";")

/-- Reads the redirections behind a command in brackets or between words. -/
def readGroup (own : Bool) (body : Command) (tokens : List Token) : Reading :=
  let (found, rest) := redirects tokens
  some (.group own body found, rest)

mutual

/-- Reads commands up to the end or to a word that ends them. -/
def readList (tokens : List Token) : Nat → Reading
  | 0 => none
  | fuel + 1 =>
    match skipSeparators tokens with
    | [] => some (.nothing, [])
    | first :: rest =>
      if first ∈ closers then some (.nothing, first :: rest)
      else do
        let (command, rest) ← readChain (first :: rest) fuel
        match rest with
        | .operator ";" :: rest =>
          let (behind, rest) ← readList rest fuel
          some (.sequence command behind, rest)
        | [] => some (command, [])
        | closer :: _ => if closer ∈ closers then some (command, rest) else none

/-- Reads commands that wait for the success or failure of the ones before. -/
def readChain (tokens : List Token) : Nat → Reading
  | 0 => none
  | fuel + 1 => do
    let (first, rest) ← readPipeline tokens fuel
    readLinks first rest fuel

/-- Reads what follows on a command's success or failure. -/
def readLinks (first : Command) (tokens : List Token) : Nat → Reading
  | 0 => none
  | fuel + 1 =>
    match tokens with
    | .operator "&&" :: rest => do
      let (second, rest) ← readPipeline (skipSeparators rest) fuel
      readLinks (.guarded true first second) rest fuel
    | .operator "||" :: rest => do
      let (second, rest) ← readPipeline (skipSeparators rest) fuel
      readLinks (.guarded false first second) rest fuel
    | rest => some (first, rest)

/-- Reads commands that hand their output on. -/
def readPipeline (tokens : List Token) : Nat → Reading
  | 0 => none
  | fuel + 1 =>
    match tokens with
    | [] => none
    | first :: rest =>
      if first = bare "!" then do
        let (command, rest) ← readPipeline rest fuel
        some (.negated command, rest)
      else do
        let (command, rest) ← readCommand (first :: rest) fuel
        readPipes command rest fuel

/-- Reads what takes over a command's output. -/
def readPipes (first : Command) (tokens : List Token) : Nat → Reading
  | 0 => none
  | fuel + 1 =>
    match tokens with
    | .operator "|" :: rest => do
      let (second, rest) ← readCommand (skipSeparators rest) fuel
      readPipes (.pipe first second) rest fuel
    | rest => some (first, rest)

/-- Reads one command. -/
def readCommand (tokens : List Token) : Nat → Reading
  | 0 => none
  | fuel + 1 =>
    match tokens with
    | [] => none
    | first :: rest =>
      if first = bare "while" then do
        let (condition, rest) ← readList rest fuel
        let (body, rest) ← readList (← expect (bare "do") rest) fuel
        readGroup false (.loop condition body) (← expect (bare "done") rest)
      else if first = bare "until" then do
        let (condition, rest) ← readList rest fuel
        let (body, rest) ← readList (← expect (bare "do") rest) fuel
        readGroup false (.loop (.negated condition) body) (← expect (bare "done") rest)
      else if first = bare "for" then
        match rest with
        | .word name :: rest => do
          let (words, rest) := wordList (← expect (bare "in") rest)
          let (body, rest) ← readList (← expect (bare "do") (skipSeparators rest)) fuel
          readGroup false (.each name words body) (← expect (bare "done") rest)
        | _ => none
      else if first = bare "if" then do
        let (command, rest) ← readChoice rest fuel
        readGroup false command rest
      else if first = bare "\x7b" then do
        let (body, rest) ← readList rest fuel
        readGroup false body (← expect (bare "\x7d") rest)
      else if first = .operator "(" then do
        let (body, rest) ← readList rest fuel
        readGroup true body (← expect (.operator ")") rest)
      else simple [] [] tokens

/-- Reads the condition and the branches of a choice. -/
def readChoice (tokens : List Token) : Nat → Reading
  | 0 => none
  | fuel + 1 => do
    let (condition, rest) ← readList tokens fuel
    let (onSuccess, rest) ← readList (← expect (bare "then") rest) fuel
    match rest with
    | first :: rest =>
      if first = bare "elif" then
        let (onFailure, rest) ← readChoice rest fuel
        some (.choice condition onSuccess onFailure, rest)
      else if first = bare "else" then
        let (onFailure, rest) ← readList rest fuel
        some (.choice condition onSuccess onFailure, ← expect (bare "fi") rest)
      else if first = bare "fi" then some (.choice condition onSuccess .nothing, rest)
      else none
    | [] => none

end

/-- The command that a script is, if it is well written. -/
def Command.ofTokens? (tokens : List Token) : Option Command :=
  -- Every step of a reader takes a token or goes one of at most seven levels deeper.
  match readList tokens (8 * tokens.length + 8) with
  | some (command, []) => some command
  | _ => none

end EngineClient.Shell
