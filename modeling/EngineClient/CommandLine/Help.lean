import EngineClient.CommandLine.Parser

/-! The texts that explain a command line and its parts. -/

namespace EngineClient.CommandLine.Help

/-- What a command does, in a line. -/
def about : CommandName → String
  | .probe => "Check that the node answers"
  | .status => "Print the node status document"
  | .count => "Count events matching an expression"
  | .exportEvents => "Stream events matching an expression"
  | .analyze => "Run a Cortex analyzer job read from stdin"
  | .version => "Print version info"
  | .completion => "Generate shell completions"
  | .help => "Print this message or the help of the given subcommand(s)"

/-- What a command does, at length, where a line is not enough. -/
def longAbout? : CommandName → Option String
  | .probe => some ("Runs `status` against the node within the timeout.\n\n"
      ++ "Prints \x7b\"connected\": true|false\x7d. Exits 0 when connected and 3 otherwise.")
  | .exportEvents => some ("Streams matching events as JSON lines: "
      ++ "\x7b\"schema\": ..., \"data\": \x7b...\x7d\x7d.\n\n"
      ++ "Historical exports end when the node has replayed all matches. Continuous and\n"
      ++ "unified exports run until Ctrl-C or until --max-events is reached.")
  | .analyze => some ("Reads a Cortex job \x7b\"dataType\", \"data\", \"config\": "
      ++ "\x7b\"endpoint\", \"max_events\"\x7d\x7d\n"
      ++ "from stdin, looks up the observable, and prints the Cortex report on stdout.\n\n"
      ++ "Supported data types: ip, subnet, hash, domain.")
  | _ => none

/-- Command lines with a command. -/
def examples : CommandName → List String
  | .count => ["tenzir-client count", "tenzir-client count ':ip in 10.0.0.0/8'"]
  | .exportEvents =>
    ["tenzir-client export --max-events 5",
      "tenzir-client export --encoding arrow '#schema == \"suricata.dns\"'",
      "tenzir-client export --mode unified ':ip == 10.0.0.1'"]
  | .completion =>
    ["tenzir-client completion bash > ~/.local/share/bash-completion/completions/tenzir-client",
      "tenzir-client completion zsh > ~/.zfunc/_tenzir-client",
      "tenzir-client completion fish > ~/.config/fish/completions/tenzir-client.fish"]
  | _ => []

/-- What is said of a value that belongs to a part. -/
def slotAbout (level : Level) : Slot → String
  | .endpoint => "Node endpoint as host:port"
  | .program => "Control program used to reach the node"
  | .timeout => "Bound for probe, status, and count in milliseconds"
  | .color =>
    "Colorize stderr diagnostics and force pretty-printed JSON: auto|always|never"
  | .mode => "historical|continuous|unified"
  | .encoding => "Wire encoding requested from the node"
  | .maxEvents => "Stop after N events"
  | .expression =>
    if level = .command .count then "Query expression (omit to count everything)"
    else "Query expression (omit to export everything)"
  | .shell => "Shell to generate completions for"

/-- The variable of the environment that gives a value, and what it holds. -/
def environmentNote (environment : Environment) : Slot → List String
  | .endpoint => ["[env: TENZIR_ENDPOINT=" ++ environment.endpoint.getD "" ++ "]"]
  | .program => ["[env: TENZIR_CTL=" ++ environment.program.getD "" ++ "]"]
  | _ => []

/-- The value that is taken where none is given. -/
def defaultNote : Slot → List String
  | .endpoint => ["[default: " ++ Endpoint.default.display ++ "]"]
  | .program => ["[default: " ++ Dialect.defaultProgram ++ "]"]
  | .color => ["[default: auto]"]
  | .mode => ["[default: historical]"]
  | .encoding => ["[default: json]"]
  | _ => []

/-- The values that are allowed. -/
def choices (names : List String) : List String :=
  ["[possible values: " ++ ", ".intercalate names ++ "]"]

/-- The values that are allowed in a place, where they can be listed. -/
def choicesNote : Slot → List String
  | .color => choices (ColorMode.all.map ColorMode.name)
  | .mode => choices (ExportMode.name <$> [.historical, .continuous, .unified])
  | .encoding => choices (Encoding.name <$> [.json, .arrow])
  | .shell => choices (ShellName.all.map ShellName.name)
  | _ => []

/-- One thing that can stand on a command line. -/
structure Entry where
  /-- How it is written. -/
  written : String
  /-- What it means. -/
  meaning : String
  /-- What else is to be known about it. -/
  notes : List String := []

/-- The entry of a value. -/
def Entry.ofSlot (environment : Environment) (level : Level) (slot : Slot) : Entry :=
  { written := (if slot.option?.isSome then "      " else "  ") ++ slot.label
    meaning := slotAbout level slot
    notes := environmentNote environment slot ++ defaultNote slot ++ choicesNote slot }

/-- Spaces. -/
def spaces (count : Nat) : String :=
  String.ofList (List.replicate count ' ')

/-- The entry on one line, its meaning behind a column. -/
def Entry.short (width : Nat) (entry : Entry) : String :=
  entry.written ++ spaces (width - entry.written.length) ++ "  "
    ++ " ".intercalate (entry.meaning :: entry.notes)

/-- The entry on lines of its own. -/
def Entry.long (entry : Entry) : String :=
  let lines := entry.meaning :: if entry.notes.isEmpty then [] else "" :: entry.notes
  String.join (entry.written :: lines.map fun line => "\n          " ++ line)

/-- Entries under each other. -/
def layOut (long : Bool) (entries : List Entry) : String :=
  if long then "\n\n".intercalate (entries.map Entry.long)
  else
    let width := (entries.map fun entry => entry.written.length).foldl max 0
    "\n".intercalate (entries.map (Entry.short width))

/-- The entry of the option that asks for help. -/
def helpEntry (name : CommandName) (long : Bool) : Entry :=
  { written := "  -h, --help"
    meaning := match (longAbout? name).isSome, long with
      | true, true => "Print help (see a summary with '-h')"
      | true, false => "Print help (see more with '--help')"
      | false, _ => "Print help" }

/-- The command line of a command in general. -/
def usage (name : CommandName) : String :=
  let level := Level.command name
  "Usage: tenzir-client " ++ name.text
    ++ (if level.options.isEmpty then "" else " [OPTIONS]")
    ++ (match level.positional? with
      | some slot => " " ++ slot.label
      | none => "")

/-- The lines with examples. -/
def exampleLines (lines : List String) : String :=
  "\n".intercalate ("EXAMPLES" :: lines.map fun line => "  $ " ++ line)

/-- The help on the command that asks for help, which is itself asked for only by its name. -/
def helpPage : List String :=
  [about .help, "Usage: tenzir-client help [COMMAND]...",
    "Arguments:\n  [COMMAND]...  Print help for the subcommand(s)"]

/-- The help on a command, part by part. -/
def commandPage (name : CommandName) (long : Bool) : List String :=
  let level := Level.command name
  -- Where there is no long text there is no long form at all.
  let long := long && (longAbout? name).isSome
  let entries := Entry.ofSlot {} level
  let arguments := match level.positional? with
    | some slot => ["Arguments:\n" ++ layOut long [entries slot]]
    | none => []
  let options := layOut long (level.options.map entries ++ [helpEntry name long])
  let lines := examples name
  [if long then (longAbout? name).getD (about name) else about name, usage name]
    ++ arguments ++ ["Options:\n" ++ options]
    ++ (if lines.isEmpty then [] else [exampleLines lines])

/-- The list of commands. -/
def commandList : String :=
  let width := (CommandName.all.map fun name => name.text.length).foldl max 0
  "\n".intercalate (CommandName.all.map fun name =>
    "  " ++ name.text ++ spaces (width - name.text.length) ++ "  " ++ about name)

/-- The help on the whole command line, part by part. -/
def topPage (environment : Environment) : List String :=
  let options := Level.top.options.map (Entry.ofSlot environment .top)
    ++ [⟨"  -h, --help", "Print help", []⟩, ⟨"  -V, --version", "Print version", []⟩]
  ["Query a Tenzir node from the command line",
    "Runs tenzir-ctl against a node and prints results as JSON.",
    "Mental model:\n"
      ++ "  - `probe` checks that the node answers\n"
      ++ "  - `count` counts matching events\n"
      ++ "  - `export` streams matching events, one JSON object per line\n",
    "USAGE\n  tenzir-client [OPTIONS] <COMMAND>",
    "COMMANDS\n" ++ commandList,
    "OPTIONS\n" ++ layOut false options ++ "\n\n",
    exampleLines
      ["tenzir-client probe", "tenzir-client count ':ip == 147.32.84.165'",
        "tenzir-client export --max-events 10 '#schema == \"suricata.alert\"'",
        "tenzir-client export --mode continuous --encoding arrow",
        "echo '\x7b\"dataType\":\"ip\",\"data\":\"10.0.0.1\",\"config\":\x7b\x7d\x7d' "
          ++ "| tenzir-client analyze"],
    "LEARN MORE\n  $ tenzir-client <command> --help"]

/-- The help on a part of a command line. -/
def page (environment : Environment) (level : Level) (long : Bool) : String :=
  let parts := match level with
    | .top => topPage environment
    | .command .help => helpPage
    | .command name => commandPage name long
  "\n\n".intercalate parts ++ "\n"

end EngineClient.CommandLine.Help
