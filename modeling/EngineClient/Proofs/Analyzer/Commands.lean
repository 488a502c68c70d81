import EngineClient.Analyzer
import EngineClient.Proofs.Dialect
import EngineClient.Proofs.Engine.Run
import EngineClient.Proofs.Json.Parser
import EngineClient.Proofs.Text.Blank

/-! What an analyzer job starts: nothing, or a status request and, if that succeeds, one export that
always has an expression. -/

namespace EngineClient.Analyzer

open Text (IsDense Trimmed isBlank)
open Invocation (isOption)

/-- The condition on events that an observable of a type occurs, as a query expression. -/
def conditionOn : ObservableType → String → String
  | .ip, value => ":ip == " ++ value
  | .subnet, value => ":ip in " ++ value
  | .hash, value => value
  | .domain, value => value

/-- Whether a text holds a job that can be looked up, the type of its observable, and the node that
is asked. -/
structure Asks (connection : Connection) (text : String) (job : Job) (type : ObservableType)
    (endpoint : Endpoint) : Prop where
  parsed : ∃ document, Json.parse (Utf8.encode text) = .ok document ∧ Job.ofJson document = .ok job
  supported : ObservableType.ofHint? job.dataType = some type
  observable : observableText job.data ≠ ""
  parsedEndpoint : Endpoint.parse (job.settings.endpoint.getD connection.endpoint) = .ok endpoint

/-- How many milliseconds a status request may take. -/
def probeTimeout (connection : Connection) : Nat :=
  connection.timeout.getD 5000

/-- The status request of a job. -/
def statusCommand (connection : Connection) (endpoint : Endpoint) : Invocation :=
  ⟨connection.program, ["--endpoint=" ++ endpoint.display, "status"]⟩

/-- The export of a job with an observable of a type. -/
def exportCommand (connection : Connection) (job : Job) (type : ObservableType)
    (endpoint : Endpoint) : Invocation :=
  ⟨connection.program,
    ["--endpoint=" ++ endpoint.display, "export",
      "--max-events=" ++ toString (job.settings.maxEvents.getD 30), "json",
      conditionOn type (observableText job.data)]⟩

/-- The command lines of a job: the status request and, exactly if that ends with code zero in time,
the export. -/
def Leads (host : Host) (connection : Connection) (job : Job) (type : ObservableType)
    (endpoint : Endpoint) (commands : List Invocation) : Prop :=
  ((host (statusCommand connection endpoint)).SucceedsWithin (probeTimeout connection) ∧
    commands = [statusCommand connection endpoint, exportCommand connection job type endpoint]) ∨
  (¬(host (statusCommand connection endpoint)).SucceedsWithin (probeTimeout connection) ∧
    commands = [statusCommand connection endpoint])

/-- The text of an observable has no blanks around it. -/
theorem observableText_trimmed (data : Json) : Trimmed isBlank (observableText data).toList := by
  cases data with
  | string text => exact Text.trim_trimmed text
  | number value => exact (Json.Number.isDense_render value).trimmed
  -- Whatever else stands for the observable has no text.
  | _ =>
    have empty : IsDense "" := by simp [IsDense]
    exact empty.trimmed

section

variable {type : ObservableType} {value : String}

/-- A condition is the observable itself, or has a template before it, which begins with a colon. -/
theorem conditionOn_cases (type : ObservableType) (value : String) :
    ((type = .hash ∨ type = .domain) ∧ conditionOn type value = value) ∨
    (¬(type = .hash ∨ type = .domain) ∧
      ∃ template, (conditionOn type value).toList = ':' :: template ++ value.toList) := by
  -- Hashes and domains stand for themselves.
  cases type with
  | hash => exact .inl ⟨.inl rfl, rfl⟩
  | domain => exact .inl ⟨.inr rfl, rfl⟩
  | ip => exact .inr ⟨by simp, _, String.toList_append⟩
  | subnet => exact .inr ⟨by simp, _, String.toList_append⟩

/-- The condition on an observable is not empty. -/
theorem conditionOn_ne_empty (filled : value ≠ "") : conditionOn type value ≠ "" := by
  rcases conditionOn_cases type value with ⟨_, same⟩ | ⟨_, template, whole⟩
  · rw [same]
    exact filled
  · -- An empty condition would have no colon before it.
    intro empty
    rw [empty] at whole
    cases whole

/-- The condition on an observable that has no blanks around it has none, either. -/
theorem conditionOn_trimmed (trimmed : Trimmed isBlank value.toList) (filled : value ≠ "") :
    Trimmed isBlank (conditionOn type value).toList := by
  rcases conditionOn_cases type value with ⟨_, same⟩ | ⟨_, template, whole⟩
  · rw [same]
    exact trimmed
  · -- A template begins with a colon, and the condition ends as the observable does.
    have items : value.toList ≠ [] := fun empty => filled (String.toList_eq_nil_iff.mp empty)
    have colon : isBlank ':' = false := by decide
    rw [whole]
    exact trimmed.behind items colon template

/-- The query that looks an observable up is the condition on it. -/
theorem toQuery_forObservable (trimmed : Trimmed isBlank value.toList) (filled : value ≠ "") :
    (Predicate.forObservable (some type) value).toQuery = ⟨conditionOn type value⟩ := by
  have same : (Predicate.forObservable (some type) value).expression = conditionOn type value := by
    -- Trimming the observable once more changes nothing.
    unfold Predicate.forObservable
    rw [Text.trim_eq trimmed]
    cases type <;> rfl
  rw [Predicate.toQuery, same, Query.ofText, Text.trim_eq (conditionOn_trimmed trimmed filled)]

end

section

variable {connection : Connection} {text : String} {job : Job} {type : ObservableType}
  {endpoint : Endpoint}

/-- What a job is looked up with. -/
def lookupOf (connection : Connection) (job : Job) (type : ObservableType) (endpoint : Endpoint) :
    Lookup where
  client :=
    { endpoint, program := connection.program, probeTimeout := probeTimeout connection
      countTimeout := connection.timeout.getD 30000 }
  request :=
    { query := ⟨conditionOn type (observableText job.data)⟩
      maxEvents := some (job.settings.maxEvents.getD 30) }

/-- A client is made for every endpoint that can be read. -/
theorem clientFor_eq (connection : Connection) (job : Job) (type : ObservableType)
    (given : String) :
    connection.clientFor given
      = (Endpoint.parse given).map fun endpoint =>
        (lookupOf connection job type endpoint).client := by
  unfold Connection.clientFor
  cases Endpoint.parse given with
  | error error => rfl
  | ok endpoint =>
    -- A time that is given holds for both short requests.
    cases timeout : connection.timeout <;>
      simp [Bind.bind, Except.bind, Pure.pure, Except.pure, Except.map, lookupOf, probeTimeout,
        timeout]

/-- A job whose observable has a known type and a text is looked up as it says, if the endpoint can
be read. -/
theorem lookup_eq (supported : ObservableType.ofHint? job.dataType = some type)
    (filled : observableText job.data ≠ "") :
    lookup connection job
      = (Endpoint.parse (job.settings.endpoint.getD connection.endpoint)).map
        (lookupOf connection job type) := by
  have query : (Predicate.forObservable (some type) (observableText job.data)).toQuery
      = ⟨conditionOn type (observableText job.data)⟩ :=
    toQuery_forObservable (observableText_trimmed job.data) filled
  -- The text is there, so the job is not turned down for want of one.
  have present : (observableText job.data).isEmpty = false := by
    rw [← Bool.not_eq_true, String.isEmpty_iff]
    exact filled
  simp only [lookup, supported, present, query, clientFor_eq connection job type]
  cases Endpoint.parse (job.settings.endpoint.getD connection.endpoint) <;> rfl

/-- A job is looked up exactly if its observable has a known type and a text and the endpoint can be
read, and then as it says. -/
theorem lookup_eq_ok_iff {found : Lookup} :
    lookup connection job = .ok found ↔ ∃ type endpoint,
      ObservableType.ofHint? job.dataType = some type ∧ observableText job.data ≠ "" ∧
      Endpoint.parse (job.settings.endpoint.getD connection.endpoint) = .ok endpoint ∧
      found = lookupOf connection job type endpoint := by
  cases supported : ObservableType.ofHint? job.dataType with
  | none => simp [lookup, supported]
  | some type =>
    by_cases filled : observableText job.data = ""
    · -- Without a text the endpoint is not even looked at.
      simp [lookup, supported, filled, throw, throwThe, MonadExceptOf.throw, Bind.bind, Except.bind]
    · rw [lookup_eq supported filled]
      cases Endpoint.parse (job.settings.endpoint.getD connection.endpoint) with
      | error error => simp [Except.map]
      | ok endpoint => simp [Except.map, filled, eq_comm]

/-- The export of a job has the condition on its observable as its expression. -/
theorem exportInvocation_lookupOf (filled : observableText job.data ≠ "") :
    (lookupOf connection job type endpoint).client.exportInvocation
        (lookupOf connection job type endpoint).request
      = exportCommand connection job type endpoint := by
  -- An expression is left out only if it is empty, and the condition is not.
  have condition : conditionOn type (observableText job.data) ≠ "" := conditionOn_ne_empty filled
  have expression : Dialect.expressionArgs (lookupOf connection job type endpoint).request.query
      = [conditionOn type (observableText job.data)] :=
    if_neg fun empty => condition (of_decide_eq_true empty)
  have whole := Dialect.Inquiry.invocation_eq connection.program endpoint
    (.exportEvents (lookupOf connection job type endpoint).request)
  rw [Dialect.Inquiry.query, expression] at whole
  exact whole

/-- A lookup finds its node there exactly if the status request ends well in time. -/
theorem probe_lookupOf_iff {engine : Engine} :
    ((lookupOf connection job type endpoint).client.probe engine).result = true ↔
      engine.SucceedsWithin (probeTimeout connection) :=
  Engine.run_isOk_iff

variable [Platform] {host : Host}

/-- A node that answers the probe is asked for the export. -/
theorem ask_of_answered (filled : observableText job.data ≠ "")
    (answered : (host (statusCommand connection endpoint)).SucceedsWithin (probeTimeout connection))
    (document : Json) :
    ask host document (lookupOf connection job type endpoint)
      = { report := (((lookupOf connection job type endpoint).client.exportEvents
            (lookupOf connection job type endpoint).request
            (host (exportCommand connection job type endpoint))).takeItems none).map fun taken =>
              reportOf document taken.items
          commands := [statusCommand connection endpoint,
            exportCommand connection job type endpoint] } := by
  rw [← exportInvocation_lookupOf filled]
  exact if_pos (probe_lookupOf_iff.mpr answered)

/-- Of a node that does not, only that is reported. -/
theorem ask_of_silent
    (silent : ¬(host (statusCommand connection endpoint)).SucceedsWithin (probeTimeout connection))
    (document : Json) :
    ask host document (lookupOf connection job type endpoint)
      = { report := some (.failed document
            (unreachable (lookupOf connection job type endpoint).client).display)
          commands := [statusCommand connection endpoint] } :=
  if_neg (mt probe_lookupOf_iff.mp silent)

/-- The status request comes first, and the export exactly if it succeeds. -/
theorem ask_commands (filled : observableText job.data ≠ "") (host : Host) (document : Json) :
    Leads host connection job type endpoint
      (ask host document (lookupOf connection job type endpoint)).commands := by
  by_cases answered :
      (host (statusCommand connection endpoint)).SucceedsWithin (probeTimeout connection)
  · rw [ask_of_answered filled answered]
    exact .inl ⟨answered, rfl⟩
  · rw [ask_of_silent answered]
    exact .inr ⟨answered, rfl⟩

/-- For a text that asks for something all that is left is to ask the node. -/
theorem run_of_asks (asks : Asks connection text job type endpoint) (host : Host) {document : Json}
    (parsed : Json.parse (Utf8.encode text) = .ok document) :
    run host connection text = ask host document (lookupOf connection job type endpoint) := by
  -- The document is parsed once, so it is the one that holds the job.
  obtain ⟨other, same, read⟩ := asks.parsed
  cases parsed.symm.trans same
  have found : lookup connection job = .ok (lookupOf connection job type endpoint) :=
    lookup_eq_ok_iff.mpr ⟨type, endpoint, asks.supported, asks.observable, asks.parsedEndpoint, rfl⟩
  simp only [run, parsed, read, found]

/-- A text that asks for something leads to the command lines of its job. -/
theorem commands_of_asks (asks : Asks connection text job type endpoint) (host : Host) :
    Leads host connection job type endpoint (run host connection text).commands := by
  obtain ⟨document, parsed, _⟩ := asks.parsed
  rw [run_of_asks asks host parsed]
  exact ask_commands asks.observable host document

/-- Nothing is started for a text that asks for nothing. -/
theorem commands_of_not_asks (host : Host)
    (bare : ∀ job type endpoint, ¬Asks connection text job type endpoint) :
    (run host connection text).commands = [] := by
  unfold run
  -- The text is no document, or the document no job, or the job cannot be looked up.
  cases parsed : Json.parse (Utf8.encode text) with
  | error fault => rfl
  | ok document =>
    cases read : Job.ofJson document with
    | error fault => simp only [read]
    | ok job =>
      simp only [read]
      cases ran : lookup connection job with
      | error error => rfl
      | ok found =>
        -- A job that is looked up is one that the text asks for.
        obtain ⟨type, endpoint, supported, observable, parsedEndpoint, _⟩ := lookup_eq_ok_iff.mp ran
        exact (bare job type endpoint
          ⟨⟨document, parsed, read⟩, supported, observable, parsedEndpoint⟩).elim

end

/-- A condition begins as an option exactly if it is the observable itself, and that does. -/
theorem isOption_conditionOn (type : ObservableType) (value : String) :
    isOption (conditionOn type value) = true ↔
      (type = .hash ∨ type = .domain) ∧ isOption value = true := by
  rcases conditionOn_cases type value with ⟨bare, same⟩ | ⟨templated, template, whole⟩
  · simp [same, bare]
  · -- An option begins with no colon.
    have colon : isOption (conditionOn type value) = false := by
      rw [isOption, whole]
      rfl
    simp [colon, templated]

/-- The options of a job's export are those for the node and for the number of events, and the
condition if that begins as an option. -/
theorem options_exportCommand (connection : Connection) (job : Job) (type : ObservableType)
    (endpoint : Endpoint) :
    (exportCommand connection job type endpoint).options
      = ["--endpoint=" ++ endpoint.display,
          "--max-events=" ++ toString (job.settings.maxEvents.getD 30)]
        ++ if isOption (conditionOn type (observableText job.data)) then
            [conditionOn type (observableText job.data)]
          else [] := by
  have node : isOption ("--endpoint=" ++ endpoint.display) = true :=
    Dialect.isOption_endpointOption endpoint
  have ceiling : isOption ("--max-events=" ++ toString (job.settings.maxEvents.getD 30)) = true :=
    Dialect.isOption_maxEvents _
  have verb : ¬isOption "export" = true := by decide
  have encoding : ¬isOption "json" = true := by decide
  -- Only the condition is not known to be an option or none.
  rw [Invocation.options, exportCommand, List.filter_cons_of_pos node, List.filter_cons_of_neg verb,
    List.filter_cons_of_pos ceiling, List.filter_cons_of_neg encoding, List.filter_cons,
    List.filter_nil]
  rfl

/-- The options of a count or an export are those that are written for the node, the mode and the
number of events, and behind them the expression exactly if that begins as an option. So it is in the
command lines of a job, whose expression begins as an option exactly if its observable is a hash or a
domain that does. -/
theorem options_eq_own [Platform] (program : String) (endpoint : Endpoint)
    (inquiry : Dialect.Inquiry) (host : Host) (connection : Connection) (text : String) :
    ((inquiry.invocation program endpoint).options = inquiry.ownOptions endpoint ++
        (if isOption inquiry.query.expression then [inquiry.query.expression] else [])) ∧
    ((inquiry.invocation program endpoint).options = inquiry.ownOptions endpoint ↔
      isOption inquiry.query.expression = false) ∧
    ∀ job type node, Asks connection text job type node →
      (∀ command ∈ (run host connection text).commands,
        command.options = ["--endpoint=" ++ node.display] ∨
          command = exportCommand connection job type node) ∧
      ((exportCommand connection job type node).options
          = ["--endpoint=" ++ node.display,
            "--max-events=" ++ toString (job.settings.maxEvents.getD 30)] ↔
        ¬((type = .hash ∨ type = .domain) ∧ isOption (observableText job.data) = true)) := by
  refine ⟨Dialect.options_invocation program endpoint inquiry,
    Dialect.options_eq_own_iff program endpoint inquiry, fun job type node asks => ⟨?_, ?_⟩⟩
  · have status : (statusCommand connection node).options = ["--endpoint=" ++ node.display] := by
      have own : isOption ("--endpoint=" ++ node.display) = true :=
        Dialect.isOption_endpointOption node
      rw [Invocation.options, statusCommand, List.filter_cons_of_pos own]
      rfl
    intro command member
    -- A command line of the job is its status request or its export.
    rcases commands_of_asks asks host with ⟨_, both⟩ | ⟨_, one⟩
    · rw [both] at member
      rcases List.mem_cons.mp member with rfl | last
      · exact .inl status
      · exact .inr (List.mem_singleton.mp last)
    · rw [one] at member
      rw [List.mem_singleton.mp member]
      exact .inl status
  · -- The condition is the only argument of the export that may be an option besides its own ones.
    rw [options_exportCommand, ← isOption_conditionOn]
    cases isOption (conditionOn type (observableText job.data)) <;> simp

/-- A host on which every engine ends with code zero at once. -/
def agreeable : Host :=
  fun _ => {}

/-- A job, as a list, whose hash is the name of an option. -/
def optionJob : String :=
  "[\"hash\",\"--unified\"]"

/-- The job asks for events with the name of the option in them. -/
theorem asks_optionJob :
    Asks {} optionJob { dataType := "hash", data := .string "--unified" } .hash
      Endpoint.default where
  parsed := by
    have spelled : Utf8.encode optionJob
        = [0x5B, 0x22, 104, 97, 115, 104, 0x22, 0x2C, 0x22, 45, 45, 117, 110, 105, 102, 105, 101,
          100, 0x22, 0x5D] := by decide
    -- The text is a list of the two strings.
    have kind : Json.value 126 [0x22, 104, 97, 115, 104, 0x22, 0x2C, 0x22, 45, 45, 117, 110, 105,
          102, 105, 101, 100, 0x22, 0x5D] 40
        = .ok (.string "hash",
          [0x2C, 0x22, 45, 45, 117, 110, 105, 102, 105, 101, 100, 0x22, 0x5D]) := rfl
    have data : Json.value 126 [0x22, 45, 45, 117, 110, 105, 102, 105, 101, 100, 0x22, 0x5D] 39
        = .ok (.string "--unified", [0x5D]) := rfl
    have whole : Json.value Json.depthLimit (Utf8.encode optionJob)
          (2 * (Utf8.encode optionJob).length + 2)
        = .ok (.array [.string "hash", .string "--unified"], []) := by
      -- The list is read member by member: to unfold the reader on the whole text takes too much.
      rw [spelled]
      calc
        _ = Json.items 126 true [] _ 41 := Json.value_list
        _ = Json.items 126 false [.string "hash"] _ 40 := Json.items_of_member rfl kind
        _ = Json.items 126 false [.string "--unified", .string "hash"] _ 39 :=
          Json.items_of_member rfl data
        _ = _ := Json.items_of_end rfl
    exact ⟨_, Json.parse_of_value whole rfl, rfl⟩
  supported := by decide
  observable := by decide
  parsedEndpoint := by rfl

open scoped Platform in
/-- A query that begins as an option becomes one, and so does the hash of a job: its export has no
expression but an option for the mode. -/
theorem not_options_eq_own :
    (¬∀ (program : String) (endpoint : Endpoint) (inquiry : Dialect.Inquiry),
      (inquiry.invocation program endpoint).options = inquiry.ownOptions endpoint) ∧
    (run agreeable {} optionJob).commands.map Invocation.args
      = [["--endpoint=localhost:5158", "status"],
        ["--endpoint=localhost:5158", "export", "--max-events=30", "json", "--unified"]] := by
  constructor
  · intro own
    -- A count is enough: its expression begins as an option, so its options are not its own ones.
    have count := own "tenzir-ctl" Endpoint.default (.count (Query.ofText "--unified"))
    rw [Dialect.options_eq_own_iff] at count
    exact absurd count (by decide)
  · have concludes : Engine.Concludes {} 0 (.ok ([], ⟨some 0, ""⟩)) :=
      .ended (List.forall_mem_nil _) rfl
    rcases commands_of_asks asks_optionJob agreeable with ⟨_, both⟩ | ⟨fails, _⟩
    · rw [both]
      decide
    · -- The engine that is asked for the status ends with code zero at once.
      exact (fails ⟨rfl, 0, [], _, concludes, Nat.zero_le _, rfl⟩).elim

end EngineClient.Analyzer
