import EngineClient.Connection

/-! What a command line can ask for. -/

namespace EngineClient.CommandLine

/-- When documents are laid out over several lines. -/
inductive ColorMode where
  /-- On a terminal. -/
  | auto
  /-- Always. -/
  | always
  /-- Never, except on a terminal. -/
  | never
deriving DecidableEq, Repr

/-- The modes. -/
def ColorMode.all : List ColorMode := [.auto, .always, .never]

/-- The name of the mode. -/
def ColorMode.name : ColorMode → String
  | .auto => "auto"
  | .always => "always"
  | .never => "never"

/-- The shells that completions can be written for. -/
inductive ShellName where
  | bash
  | elvish
  | fish
  | powershell
  | zsh
deriving DecidableEq, Repr

/-- The shells. -/
def ShellName.all : List ShellName := [.bash, .elvish, .fish, .powershell, .zsh]

/-- The name of the shell. -/
def ShellName.name : ShellName → String
  | .bash => "bash"
  | .elvish => "elvish"
  | .fish => "fish"
  | .powershell => "powershell"
  | .zsh => "zsh"

/-- The names of commands. -/
inductive CommandName where
  /-- Is the node there? -/
  | probe
  /-- What is its status? -/
  | status
  /-- How many events match? -/
  | count
  /-- Which events match? -/
  | exportEvents
  /-- Runs an analyzer job. -/
  | analyze
  /-- Tells the version. -/
  | version
  /-- Writes completions for a shell. -/
  | completion
  /-- Explains a command. -/
  | help
deriving DecidableEq, Repr

/-- The commands in the order in which they are listed. -/
def CommandName.all : List CommandName :=
  [.probe, .status, .count, .exportEvents, .analyze, .version, .completion, .help]

/-- The name as it is written. -/
def CommandName.text : CommandName → String
  | .probe => "probe"
  | .status => "status"
  | .count => "count"
  | .exportEvents => "export"
  | .analyze => "analyze"
  | .version => "version"
  | .completion => "completion"
  | .help => "help"

/-- The command that a word names. -/
def CommandName.ofText? (word : String) : Option CommandName :=
  CommandName.all.find? fun name => name.text = word

/-- What is to be done. -/
inductive Command where
  /-- Tells whether the node answers. -/
  | probe
  /-- Prints the node's status. -/
  | status
  /-- Counts the events that match. -/
  | count (expression : Option String)
  /-- Prints the events that match. -/
  | exportEvents (expression : Option String) (mode : ExportMode) (encoding : Encoding)
      (maxEvents : Option Nat)
  /-- Runs the analyzer job on the input. -/
  | analyze
  /-- Tells the version. -/
  | version
  /-- Writes completions for a shell. -/
  | completion (shell : ShellName)
deriving DecidableEq, Repr

/-- A whole command line. -/
structure Arguments where
  /-- How the node is reached. -/
  connection : Connection
  /-- How documents are laid out. -/
  color : ColorMode
  /-- What is to be done. -/
  command : Command
deriving DecidableEq, Repr

end EngineClient.CommandLine
