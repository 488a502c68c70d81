import EngineClient.CommandLine.Run
import EngineClient.Proofs.Json.Printed
import EngineClient.Proofs.Session.Proper

/-! What an export prints: one line for each event, and one more for a failure, on its own stream. -/

namespace EngineClient.CommandLine

open Json (IsPlain IsProper lined)

/-- The request that an export command makes. -/
def requestOf (expression : Option String) (mode : ExportMode) (encoding : Encoding)
    (maxEvents : Option Nat) : ExportRequest :=
  { query := Query.ofText (expression.getD ""), mode, encoding, maxEvents }

/-- A command line asks for an export: it is read, and its endpoint is valid. -/
inductive AsksExport (environment : Environment) (words : List String) :
    Client → ExportRequest → Prop where
  | intro {arguments : Arguments} {client : Client} {expression : Option String} {mode : ExportMode}
    {encoding : Encoding} {maxEvents : Option Nat} (parsed : parse environment words = .ok arguments)
    (command : arguments.command = .exportEvents expression mode encoding maxEvents)
    (valid : arguments.connection.client = .ok client) :
    AsksExport environment words client (requestOf expression mode encoding maxEvents)

/-- The export that a client starts on a host. -/
def exportOn (host : Host) (client : Client) (request : ExportRequest) : Session :=
  client.exportEvents request (host (client.exportInvocation request))

/-- The exit statuses as callers are told them, each with the kind of failure that it stands for. -/
def toldStatuses : List (Nat × ErrorKind) :=
  [(1, .internal), (2, .usage), (3, .unreachable), (4, .execution), (5, .protocol), (6, .timeout),
    (7, .cancelled), (8, .io)]

/-- A kind of failure has the status that callers are told for it, and no other. -/
theorem mem_toldStatuses_iff {status : Nat} {kind : ErrorKind} :
    (status, kind) ∈ toldStatuses ↔ status = kind.exitStatus := by
  -- Each kind stands once in the list, beside its status.
  cases kind <;> simp [toldStatuses, ErrorKind.exitStatus]

/-- What is printed of the events of an export, and how the program ends behind them. -/
structure Prints (records : List Record) (last : Except Error Unit) (outcome : Outcome) : Prop where
  /-- Each event is a document with the keys `data` and `schema`, in order, each behind a newline. -/
  lines : outcome.stdout = lined (records.map Record.toJson)
  /-- No document has a newline in it, so that each is one line. -/
  single : ∀ record ∈ records, '\n' ∉ record.toJson.compact.toList
  /-- The lines are read back as these documents if no data have floating-point numbers or more levels
  than can be read inside an object. -/
  readBack : ∀ depth < Json.depthLimit, (∀ record ∈ records, IsPlain depth (.object record.data)) →
    ∀ source : Source, source.Holds (Utf8.encode outcome.stdout) →
      ∃ rest, Exhausts Json.Lines.next { source } (records.map fun record => ⟨none, record.fields⟩)
        (.ok ()) rest
  /-- An export that comes to its end adds nothing. -/
  completed : last = .ok () → outcome.status = 0 ∧ outcome.stderr = ""
  /-- A failure is told on one line, and by the status that stands for its kind. -/
  failed : ∀ error, last = .error error → (outcome.status, error.kind) ∈ toldStatuses ∧
    outcome.stderr = (errorJson (withHint error)).compact ++ "\n" ∧
    '\n' ∉ (errorJson (withHint error)).compact.toList

section

variable (records : List Record) (last : Except Error Unit)

/-- The items of an export are printed as its events, and a failure behind them as nothing. -/
theorem recordLines_handedOut :
    recordLines (Session.handedOut records last) = lined (records.map Record.toJson) := by
  -- The induction is on the events; what comes behind them prints no line.
  induction records with
  | nil => cases last <;> rfl
  | cons record records ih =>
    have first : recordLines (Session.handedOut (record :: records) last)
        = record.toJson.compact ++ "\n" ++ recordLines (Session.handedOut records last) := by
      rw [Session.handedOut_cons]
      simp only [recordLines, List.map_cons, String.join_cons]
    rw [first, ih]
    simp only [lined, List.map_cons, String.join_cons]

/-- The failure among the items of an export is the one that it ends with. -/
theorem failureOf_handedOut : failureOf (Session.handedOut records last)
    = match last with
      | .ok () => none
      | .error error => some error := by
  -- The induction is on the events, none of which is a failure.
  induction records with
  | nil => cases last <;> rfl
  | cons record records ih =>
    rw [Session.handedOut_cons, ← ih]
    rfl

/-- What an export prints has the failure that it ends with behind its events. -/
theorem printed_handedOut : printed (Session.handedOut records last)
    = match last with
      | .ok () => { stdout := lined (records.map Record.toJson) }
      | .error error => { Outcome.failed error with stdout := lined (records.map Record.toJson) } := by
  rw [printed, failureOf_handedOut, recordLines_handedOut]
  cases last <;> rfl

end

/-- The items of an export are printed as its events and the failure behind them. -/
theorem prints_handedOut {records : List Record} (last : Except Error Unit)
    (proper : ∀ record ∈ records, IsProper (.object record.data)) (commands : List Invocation) :
    Prints records last ((printed (Session.handedOut records last)).after commands) where
  lines := by
    rw [printed_handedOut]
    cases last <;> rfl
  single _ _ := Json.newline_notMem_compact _
  readBack := by
    intro depth inside plain source holds
    -- The data of an event stand one level further inside.
    have spells : Json.Lines.Spells (Utf8.encode (lined ((records.map Record.fields).map .object)))
        (records.map Record.fields) := by
      refine Json.Lines.spells_lined (List.forall_mem_map.mpr fun record member => ?_)
        (List.forall_mem_map.mpr fun record member => Record.isProper_fields (proper record member))
      exact (Record.isPlain_fields (plain record member)).mono inside
    -- What was printed is one line for each event.
    have printed : ((printed (Session.handedOut records last)).after commands).stdout
        = lined ((records.map Record.fields).map .object) := by
      rw [printed_handedOut, List.map_map]
      cases last <;> rfl
    rw [printed] at holds
    have read := Json.Lines.exhausts_ok_iff.mpr ⟨_, holds, spells⟩
    rw [List.map_map] at read
    exact read
  completed := by
    rintro rfl
    rw [printed_handedOut]
    exact ⟨rfl, rfl⟩
  failed := by
    -- The status is the one that is told for the kind, and the message is on one line.
    rintro error rfl
    rw [printed_handedOut]
    exact ⟨mem_toldStatuses_iff.mpr rfl, rfl, Json.newline_notMem_compact _⟩

section

variable [Platform]

variable {environment : Environment} {words : List String} {client : Client} {request : ExportRequest}

/-- A command line that asks for an export prints the items of it, if it ends. -/
theorem run_of_asksExport (asks : AsksExport environment words client request) (host : Host)
    (input : Bytes) : run host environment words input
      = ((exportOn host client request).takeItems none).map fun taken =>
        (printed taken.items).after [client.exportInvocation request] := by
  cases asks with | intro parsed command valid
  simp only [run, parsed, dispatch, command, withClient, valid]
  rfl

/-- An event whose text has a newline in it. -/
def twoLines : Record :=
  ⟨none, [("a", .string "one\ntwo")]⟩

/-- A host whose engine sends the event, and then fails. -/
def failingHost : Host :=
  fun _ => { output := [.data (Utf8.encode (lined [.object twoLines.data]))], exit := .ok ⟨some 7, ""⟩ }

/-- The client of a command line that names no endpoint. -/
def usualClient : Client :=
  { endpoint := Endpoint.default }

/-- The request of a command line that says nothing about what is wanted. -/
def usualRequest : ExportRequest :=
  requestOf none .historical .json none

/-- What the engine fails with. -/
def endedBadly : Error :=
  { kind := .execution, message := some (ExitReport.describe (some 7)), exitCode := some 7
    input := some (usualClient.exportInvocation usualRequest).display }

end

end EngineClient.CommandLine
