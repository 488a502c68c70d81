import EngineClient.Proofs.Dialect
import EngineClient.Proofs.Endpoint

/-! The arguments of a command line tell the node that is asked, and all that it is asked for. -/

namespace EngineClient.Dialect

/-- A command to a node. -/
inductive Command where
  /-- What is its status? -/
  | status
  /-- A request with a query. -/
  | inquire (inquiry : Inquiry)

/-- The command line that gives the command. -/
def Command.invocation (program : String) (endpoint : Endpoint) : Command → Invocation
  | .status => (control program).status endpoint
  | .inquire inquiry => inquiry.invocation program endpoint

/-- What an argument holds behind a beginning, if that is how it begins. -/
def behind? (beginning argument : String) : Option (List Char) :=
  argument.toList.dropPrefix? beginning.toList

/-- Reads the mode, which is named unless the export ends by itself. -/
def readMode : List String → ExportMode × List String
  | [] => (.historical, [])
  | word :: rest =>
    if word = "--continuous" then (.continuous, rest)
    else if word = "--unified" then (.unified, rest)
    else (.historical, word :: rest)

/-- Reads the greatest number of events, if there is one. -/
def readCeiling : List String → Option Nat × List String
  | [] => (none, [])
  | word :: rest =>
    match behind? "--max-events=" word with
    | some digits => (some (Nat.ofDigitChars 10 digits 0), rest)
    | none => (none, word :: rest)

/-- Reads the encoding, which is always named. -/
def readEncoding? : List String → Option (Encoding × List String)
  | [] => none
  | word :: rest =>
    if word = "json" then some (.json, rest)
    else if word = "arrow" then some (.arrow, rest)
    else none

/-- Reads the query, of which nothing is written where it matches every event. -/
def readQuery? : List String → Option Query
  | [] => some .all
  | [expression] => some ⟨expression⟩
  | _ => none

/-- Reads what is exported. -/
def readRequest? (words : List String) : Option ExportRequest := do
  let (mode, words) := readMode words
  let (maxEvents, words) := readCeiling words
  let (encoding, words) ← readEncoding? words
  let query ← readQuery? words
  return { query, mode, maxEvents, encoding }

/-- Reads a command behind its endpoint. -/
def readCommand? : List String → Option Command
  | [] => none
  | verb :: words =>
    if verb = "status" then some .status
    else if verb = "count" then (readQuery? words).map fun query => .inquire (.count query)
    else if verb = "export" then
      (readRequest? words).map fun request => .inquire (.exportEvents request)
    else none

/-- Reads the arguments of a command line. -/
def readArgs? : List String → Option (Endpoint × Command)
  | [] => none
  | node :: words => do
    let shown ← behind? "--endpoint=" node
    let endpoint ← Endpoint.ofDisplay? shown
    let command ← readCommand? words
    return (endpoint, command)

/-- What stands behind a beginning is found there. -/
theorem behind?_append (beginning text : String) :
    behind? beginning (beginning ++ text) = some text.toList := by
  rw [behind?, String.toList_append]
  exact List.dropPrefix?_append_of_beq _ (beq_self_eq_true _)

/-- The expression is the whole query, and the empty one is the only one that is left out. -/
theorem readQuery?_expressionArgs (query : Query) :
    readQuery? (expressionArgs query) = some query := by
  -- An empty expression is left out, and read as one that is empty.
  unfold expressionArgs
  split
  · rename_i empty
    obtain ⟨expression⟩ := query
    have none : expression = "" := of_decide_eq_true empty
    rw [none]
    rfl
  · rfl

/-- The word that names an encoding is read as it, whatever follows. -/
theorem readEncoding?_name (encoding : Encoding) (rest : List String) :
    readEncoding? (encoding.name :: rest) = some (encoding, rest) := by
  cases encoding <;> rfl

/-- The option for the number of events is read, or is missing in front of the encoding. -/
theorem readCeiling_ceilingOptions (maxEvents : Option Nat) (encoding : Encoding)
    (rest : List String) :
    readCeiling (ceilingOptions maxEvents ++ encoding.name :: rest)
      = (maxEvents, encoding.name :: rest) := by
  cases maxEvents with
  | none =>
    -- No encoding has a name that begins as the option does.
    cases encoding <;> rfl
  | some maxEvents =>
    have digits : (toString maxEvents).toList = Nat.toDigits 10 maxEvents := by
      rw [Nat.toString_eq_repr, Nat.toList_repr]
    rw [ceilingOptions, List.singleton_append, readCeiling, behind?_append]
    simp only [digits, Nat.ofDigitChars_ten_toDigits]

/-- A word that begins otherwise than the options for the mode names none. -/
theorem readMode_of_ne {word : String} {rest : List String} (live : word ≠ "--continuous")
    (both : word ≠ "--unified") : readMode (word :: rest) = (.historical, word :: rest) := by
  rw [readMode, if_neg live, if_neg both]

/-- The option for the mode is read, or is missing in front of what follows. -/
theorem readMode_modeOptions (mode : ExportMode) (maxEvents : Option Nat) (encoding : Encoding)
    (rest : List String) :
    readMode (modeOptions mode ++ (ceilingOptions maxEvents ++ encoding.name :: rest))
      = (mode, ceilingOptions maxEvents ++ encoding.name :: rest) := by
  -- Only the historical mode has no option of its own.
  cases mode with
  | continuous => rfl
  | unified => rfl
  | historical =>
    rw [modeOptions, List.nil_append]
    cases maxEvents with
    | none => cases encoding <;> rfl
    | some maxEvents =>
      -- The third character tells the option for the number of events from those for the mode.
      have different (option : String) (third : option.toList[2]? ≠ some 'm') :
          "--max-events=" ++ toString maxEvents ≠ option := by
        intro same
        rw [← same, String.toList_append] at third
        exact third rfl
      rw [ceilingOptions, List.singleton_append]
      exact readMode_of_ne (different _ (by decide)) (different _ (by decide))

/-- What is exported is read as it was written. -/
theorem readRequest?_words (request : ExportRequest) :
    readRequest? (modeOptions request.mode ++ (ceilingOptions request.maxEvents
        ++ request.encoding.name :: expressionArgs request.query)) = some request := by
  -- Each part is read off the front, and leaves the parts behind it.
  simp only [readRequest?, readMode_modeOptions, readCeiling_ceilingOptions, readEncoding?_name,
    readQuery?_expressionArgs, Option.bind_eq_bind, Option.bind_some]
  rfl

/-- A command is given by the option for the node, and words that it is read back from. -/
theorem args_invocation (program : String) (endpoint : Endpoint) (command : Command) :
    ∃ words, (command.invocation program endpoint).args = endpointOption endpoint :: words ∧
      readCommand? words = some command := by
  -- The word behind the endpoint tells the command.
  cases command with
  | status => exact ⟨["status"], rfl, rfl⟩
  | inquire inquiry =>
    have whole := congrArg Invocation.args (inquiry.invocation_eq program endpoint)
    cases inquiry with
    | count query =>
      refine ⟨"count" :: expressionArgs query, whole, ?_⟩
      have read := readQuery?_expressionArgs query
      simp [readCommand?, read]
    | exportEvents request =>
      refine ⟨"export" :: (modeOptions request.mode ++ (ceilingOptions request.maxEvents
        ++ request.encoding.name :: expressionArgs request.query)), ?_, ?_⟩
      · rw [Command.invocation, whole]
        simp [Inquiry.opening, Inquiry.query]
      · have read := readRequest?_words request
        simp [readCommand?, read]

/-- The arguments of a command line are read as the endpoint and the command. -/
theorem readArgs?_invocation (program : String) (endpoint : Endpoint) (command : Command) :
    readArgs? (command.invocation program endpoint).args = some (endpoint, command) := by
  obtain ⟨words, args, read⟩ := args_invocation program endpoint command
  -- The first argument names the node, and the words behind it the command.
  have node := behind?_append "--endpoint=" endpoint.display
  rw [args, readArgs?, endpointOption]
  simp only [node, Endpoint.ofDisplay?_display, read, Option.bind_eq_bind, Option.bind_some]
  rfl

/-- The program stands apart from the arguments, which do not hang on it. -/
theorem args_of_program (program other : String) (endpoint : Endpoint) (command : Command) :
    (command.invocation program endpoint).args = (command.invocation other endpoint).args := by
  cases command with
  | status => rfl
  | inquire inquiry => rw [Command.invocation, Command.invocation, Inquiry.invocation_eq,
      Inquiry.invocation_eq]

/-- The arguments of a command line tell the node that is asked, and all that it is asked for: the kind
of command, the expression whatever text it is, the mode, the greatest number of events and the
encoding. So two command lines have the same arguments only where they give the same node the same
command. -/
theorem args_tell_command :
    (∀ (program : String) (endpoint : Endpoint) (command : Command),
      readArgs? (command.invocation program endpoint).args = some (endpoint, command)) ∧
    (∀ (program other : String) (endpoint endpoint' : Endpoint) (command command' : Command),
      (command.invocation program endpoint).args = (command'.invocation other endpoint').args ↔
        endpoint = endpoint' ∧ command = command') := by
  refine ⟨readArgs?_invocation, fun program other endpoint endpoint' command command' => ?_⟩
  constructor
  · intro same
    -- Both are read from the same arguments.
    have one := readArgs?_invocation program endpoint command
    have two := readArgs?_invocation other endpoint' command'
    rw [same, two] at one
    obtain ⟨rfl, rfl⟩ := Prod.mk.inj (Option.some.inj one)
    exact ⟨rfl, rfl⟩
  · rintro ⟨rfl, rfl⟩
    exact args_of_program program other endpoint command

end EngineClient.Dialect
