import EngineClient.Text.Blank
import EngineClient.Text.Quoted

/-! A program with its arguments, ready to be started. -/

namespace EngineClient

/-- A program with its arguments. -/
structure Invocation where
  /-- The program, looked up on the search path unless it holds a slash. -/
  program : String
  /-- The arguments in order. -/
  args : List String := []
deriving DecidableEq, Repr

namespace Invocation

/-- Appends an argument. -/
def arg (invocation : Invocation) (text : String) : Invocation :=
  { invocation with args := invocation.args ++ [text] }

/-- The name of an option as it is written, with dashes for underscores. -/
def optionName (name : String) : String :=
  String.ofList (name.toList.map fun char => if char = '_' then '-' else char)

/-- Appends an option without a value. -/
def flag (invocation : Invocation) (name : String) : Invocation :=
  invocation.arg ("--" ++ optionName name)

/-- Appends an option with a value. -/
def option (invocation : Invocation) (name value : String) : Invocation :=
  invocation.arg ("--" ++ optionName name ++ "=" ++ value)

/-- Whether an argument cannot be shown bare: it is empty, or holds a blank or a quote. -/
def needsQuotes (text : List Char) : Bool :=
  text.isEmpty || text.any fun char => Text.isBlank char || char = '"'

/-- An argument as it is shown in a command line. -/
def displayArg (text : List Char) : List Char :=
  if needsQuotes text then Quoted.quoteList text else text

/-- The arguments of a command line, with a space before each. -/
def displayArgs (args : List String) : List Char :=
  args.flatMap fun text => ' ' :: displayArg text.toList

/-- The command line. -/
def display (invocation : Invocation) : String :=
  String.ofList (invocation.program.toList ++ displayArgs invocation.args)

end Invocation

end EngineClient
