import EngineClient.Proofs.Analyzer.Commands
import EngineClient.Proofs.Session.Taking

/-! What the report on an analyzer job says: all the objects that its export brings, or the first thing
that went wrong and no object at all. -/

namespace EngineClient.Analyzer

open Session (handedOut)

/-- The export of a job, before its engine is started. -/
def exportOf (host : Host) (connection : Connection) (job : Job) (type : ObservableType)
    (endpoint : Endpoint) : Session where
  engine := host (exportCommand connection job type endpoint)
  invocation := exportCommand connection job type endpoint
  request := (lookupOf connection job type endpoint).request
  grace := (lookupOf connection job type endpoint).client.grace

section

variable (host : Host) (connection : Connection) (text : String)

/-- The text gets as far as an export: it asks for something, and the node answers the probe. -/
inductive Starts : Json → Session → Prop where
  | intro {document : Json} {job : Job} {type : ObservableType} {endpoint : Endpoint}
    (parsed : Json.parse (Utf8.encode text) = .ok document)
    (asks : Asks connection text job type endpoint)
    (answered : (host (statusCommand connection endpoint)).SucceedsWithin
      (probeTimeout connection)) :
    Starts document (exportOf host connection job type endpoint)

/-- The reasons for which a job is turned down before any engine is started. -/
inductive Refuses (job : Job) : Error → Prop where
  /-- Its observable has a type that cannot be looked up. -/
  | unsupported (unknown : ObservableType.ofHint? job.dataType = none) :
    Refuses job (unsupportedType job.dataType)
  /-- It has no observable. -/
  | blank {type : ObservableType} (supported : ObservableType.ofHint? job.dataType = some type)
    (blank : observableText job.data = "") : Refuses job missingObservable
  /-- The endpoint of the node cannot be read. -/
  | unaddressed {type : ObservableType} {error : Error}
    (supported : ObservableType.ofHint? job.dataType = some type)
    (observable : observableText job.data ≠ "")
    (unread : Endpoint.parse (job.settings.endpoint.getD connection.endpoint) = .error error) :
    Refuses job error

/-- The export ends as it should, and all lines of its output hold objects: these. -/
inductive Finds : List Json.Fields → Prop where
  | intro {document : Json} {fresh : Session} {bytes : Bytes} {objects : List Json.Fields}
    {report : ExitReport} (starts : Starts host connection text document fresh)
    (spawned : fresh.engine.spawnError = none)
    (holds : Source.Holds { events := fresh.engine.output } bytes)
    (spells : Json.Lines.Spells bytes objects)
    (exit : fresh.engine.exit = .ok report) (code : report.code = some 0) : Finds objects

/-- What goes wrong first with a text, as the document at fault and the reason. -/
inductive Fails [Platform] : Json → String → Prop where
  /-- The text is no document. -/
  | notJson {fault : Json.Fault} (parsed : Json.parse (Utf8.encode text) = .error fault) :
    Fails (.string text) ("invalid job: " ++ fault.message)
  /-- The document is no job. -/
  | notJob {document : Json} {fault : JobFault}
    (parsed : Json.parse (Utf8.encode text) = .ok document)
    (read : Job.ofJson document = .error fault) : Fails document ("invalid job: " ++ fault.message)
  /-- The job is turned down. -/
  | refused {document : Json} {job : Job} {error : Error}
    (parsed : Json.parse (Utf8.encode text) = .ok document) (read : Job.ofJson document = .ok job)
    (refuses : Refuses connection job error) : Fails document error.display
  /-- The node does not answer the probe. -/
  | silent {document : Json} {job : Job} {type : ObservableType} {endpoint : Endpoint}
    (parsed : Json.parse (Utf8.encode text) = .ok document)
    (asks : Asks connection text job type endpoint)
    (unanswered : ¬(host (statusCommand connection endpoint)).SucceedsWithin
      (probeTimeout connection)) :
    Fails document (unreachable (lookupOf connection job type endpoint).client).display
  /-- The export fails, perhaps behind some objects. -/
  | broken {document : Json} {fresh : Session} {records : List Record} {error : Error}
    (starts : Starts host connection text document fresh)
    (fails : Session.Fails fresh records error) : Fails document error.display

/-- The output of the export comes neither to an end nor to a failure. -/
inductive Endless : Prop where
  | intro {document : Json} {fresh : Session} (starts : Starts host connection text document fresh)
    (spawned : fresh.engine.spawnError = none)
    (endless : ∀ records last rest, ¬Exhausts Json.Lines.next
      { source := { events := fresh.engine.output } } records last rest) : Endless

end

/-- A document that reports success: some objects, and how many they are. -/
structure TellsFound (report : Json) (objects : List Json.Fields) : Prop where
  success : report.get? "success" = some (.bool true)
  values : (report.get? "full").bind (·.get? "values") = some (.array (objects.map .object))
  taxonomy : ∃ taxonomy level,
    (report.get? "summary").bind (·.get? "taxonomies") = some (.array [taxonomy]) ∧
    taxonomy.get? "value" = some (.string (toString objects.length)) ∧
    taxonomy.get? "level" = some (.string level) ∧ (level = "suspicious" ↔ objects ≠ [])
  silent : report.get? "errorMessage" = none

/-- A document that reports a failure and its reason, and no objects. -/
structure TellsFailed (report input : Json) (reason : String) : Prop where
  success : report.get? "success" = some (.bool false)
  message : report.get? "errorMessage" = some (.string reason)
  input : report.get? "input" = some input
  values : report.get? "full" = none ∧ report.get? "summary" = none

/-- A report that says of itself what it is. -/
def Report.Agrees : Report → Prop
  | .found objects =>
    (Report.found objects).isSuccess = true ∧ TellsFound (Report.found objects).toJson objects
  | .failed input reason =>
    (Report.failed input reason).isSuccess = false ∧
      TellsFailed (Report.failed input reason).toJson input reason

/-- The level is suspicious exactly if there are hits. -/
theorem level_eq_suspicious_iff (hits : Nat) : Report.level hits = "suspicious" ↔ 0 < hits := by
  -- Without hits the level is another word.
  by_cases some : 0 < hits
  · simp [Report.level, some]
  · have safe : Report.level hits = "safe" := if_neg some
    rw [safe]
    exact ⟨fun same => absurd same (by decide), fun more => (some more).elim⟩

/-- Every report agrees with its success flag. -/
theorem Report.agrees (report : Report) : report.Agrees := by
  cases report with
  | failed input reason => exact ⟨rfl, rfl, rfl, rfl, rfl, rfl⟩
  -- Of what is found only the level depends on whether there is anything.
  | found objects =>
    refine ⟨rfl, rfl, rfl, ⟨_, level objects.length, rfl, rfl, rfl, ?_⟩, rfl⟩
    rw [level_eq_suspicious_iff, List.length_pos_iff]

/-- The report on some events and what comes behind them. -/
def reportOn (document : Json) (records : List Record) : Except Error Unit → Report
  | .ok () => .found (records.map Record.data)
  | .error error => .failed document error.display

/-- The report on the items of an export tells all its events, unless a failure comes behind them. -/
theorem reportOf_handedOut (document : Json) (records : List Record) (last : Except Error Unit) :
    reportOf document (handedOut records last) = reportOn document records last := by
  -- The induction is on the events, and a failure behind them takes the place of all.
  have gathered : (handedOut records last).mapM (fun item => item.map Record.data)
      = last.map fun _ => records.map Record.data := by
    induction records with
    | nil => cases last <;> rfl
    | cons record records ih =>
      rw [Session.handedOut_cons, List.mapM_cons, ih]
      cases last <;> rfl
  rw [reportOf, gathered]
  cases last <;> rfl

section

variable {host : Host} {connection : Connection} {text : String} {document : Json} {fresh : Session}

/-- A text that gets as far as an export is reported on by the items of that. -/
theorem report_of_starts [Platform] (starts : Starts host connection text document fresh) :
    (run host connection text).report
      = (fresh.takeItems none).map fun taken => reportOf document taken.items := by
  cases starts with | @intro job type endpoint parsed asks answered
  -- The node answers, so the probe lets the export begin.
  rw [run_of_asks asks host parsed, ask_of_answered asks.observable answered]
  simp only [Client.exportEvents, exportInvocation_lookupOf asks.observable]
  rfl

/-- A job whose export comes to its end or to a failure is reported on. -/
theorem report_of_exhausts [Platform] (starts : Starts host connection text document fresh)
    {records : List Record} {last : Except Error Unit} {after : Session}
    (exhausts : Exhausts Session.nextRecord fresh records last after) :
    (run host connection text).report = some (reportOn document records last) := by
  rw [report_of_starts starts, Session.takeItems_of_exhausts exhausts, Option.map_some,
    reportOf_handedOut]

/-- An export of a job is fresh, covers stored events, and is written as lines. -/
theorem fresh_of_starts (starts : Starts host connection text document fresh) :
    fresh.phase = .idle ∧ fresh.request.mode = .historical ∧ fresh.request.encoding = .json := by
  -- All three are fields of the export as it is set up.
  cases starts
  exact ⟨rfl, rfl, rfl⟩

/-- The reader of an export is one of lines. -/
theorem opened_of_starts (starts : Starts host connection text document fresh) :
    fresh.opened = .json { source := { events := fresh.engine.output } } := by
  cases starts
  rfl

/-- What is found is reported. -/
theorem report_of_finds [Platform] {objects : List Json.Fields}
    (finds : Finds host connection text objects) :
    (run host connection text).report = some (.found objects) := by
  obtain ⟨starts, spawned, holds, spells, exit, code⟩ := finds
  obtain ⟨idle, stored, _⟩ := fresh_of_starts starts
  -- The lines are read to their end, and then the engine's end settles the export.
  obtain ⟨rest, read⟩ := Decoder.exhausts_json_iff.mpr
    (Json.Lines.exhausts_ok_iff.mpr ⟨_, holds, spells⟩)
  rw [← opened_of_starts starts] at read
  obtain ⟨after, exhausts, _⟩ := Session.exhausts_of_opened idle spawned read
  have settled : Session.verdict _ (.ok ()) = .ok () :=
    Session.settle_eq_ok_iff.mpr ⟨⟨_, exit, code⟩, .inl stored⟩
  rw [settled] at exhausts
  rw [report_of_exhausts starts exhausts, reportOn, List.map_map]
  simp [Function.comp_def]

/-- A job that is turned down is not looked up. -/
theorem lookup_of_refuses {job : Job} {error : Error} (refuses : Refuses connection job error) :
    lookup connection job = .error error := by
  -- Each reason stops the lookup at its own place.
  cases refuses with
  | unsupported unknown => rw [lookup, unknown]
  | blank supported blank =>
    simp [lookup, supported, blank, throw, throwThe, MonadExceptOf.throw, Bind.bind, Except.bind]
  | unaddressed supported observable unread =>
    rw [lookup_eq supported observable, unread]
    rfl

variable [Platform]

/-- What goes wrong is reported. -/
theorem report_of_fails {input : Json} {reason : String}
    (fails : Fails host connection text input reason) :
    (run host connection text).report = some (.failed input reason) := by
  -- The failures stand in the order of the checks: each is told once those before it are passed.
  cases fails with
  | notJson parsed => simp only [run, parsed]
  | notJob parsed read => simp only [run, parsed, read]
  | refused parsed read refuses => simp only [run, parsed, read, lookup_of_refuses refuses]
  | @silent _ job type endpoint parsed asks unanswered =>
    rw [run_of_asks asks host parsed, ask_of_silent unanswered]
  | broken starts fails =>
    -- A broken export fails behind the probe, and the report is made from its items.
    obtain ⟨idle, _, _⟩ := fresh_of_starts starts
    obtain ⟨after, exhausts⟩ := Session.exhausts_of_fails idle fails
    exact report_of_exhausts starts exhausts

/-- A line that holds no object fails the job, whatever objects the lines before it hold. -/
theorem fails_of_line (starts : Starts host connection text document fresh)
    (spawned : fresh.engine.spawnError = none) {bytes : Bytes}
    (holds : Source.Holds { events := fresh.engine.output } bytes) {records : List Record}
    {found : Error} (comes : ComesTo (Json.Lines.itemsFrom 1 bytes) records (.error found)) :
    Fails host connection text document
      { found with stderr := Session.heard fresh.engine.terminated }.display := by
  -- The export reads its output from the first line on, and comes to the line at fault.
  have opened : Source.Holds (Json.Lines.mk { events := fresh.engine.output } 0).source bytes := holds
  obtain ⟨rest, inner⟩ := Json.Lines.exhausts_of_comesTo opened comes
  have ofOutput := Json.Lines.ofOutput_of_exhausts inner
  obtain ⟨_, read⟩ := Decoder.exhausts_json_iff.mpr ⟨rest, inner⟩
  -- The reader of the export is that reader of lines.
  rw [← opened_of_starts starts] at read
  exact .broken starts (.broken spawned read ofOutput.kind ofOutput.bare)

/-- Nothing is reported where the export never ends. -/
theorem report_of_endless (endless : Endless host connection text) :
    (run host connection text).report = none := by
  obtain ⟨starts, spawned, endless⟩ := endless
  obtain ⟨idle, _, _⟩ := fresh_of_starts starts
  rw [report_of_starts starts, Option.map_eq_none_iff, Session.takeItems_eq_none_iff]
  -- An end of the export would be one of its output.
  intro records last after exhausts
  obtain ⟨_, rest, read⟩ := Session.opened_of_exhausts idle exhausts spawned
  rw [opened_of_starts starts] at read
  obtain ⟨_, inner⟩ := Decoder.exhausts_json_iff.mp ⟨rest, read⟩
  exact endless _ _ _ inner

/-- An export finds something, fails or never ends. -/
theorem ways_of_starts (starts : Starts host connection text document fresh) :
    (∃ objects, Finds host connection text objects) ∨
      (∃ reason, Fails host connection text document reason) ∨ Endless host connection text := by
  obtain ⟨idle, _, encoding⟩ := fresh_of_starts starts
  have opened := opened_of_starts starts
  -- The items come to an end or do not, and the end is good or bad.
  by_cases ends : ∃ records last after, Exhausts Session.nextRecord fresh records last after
  · obtain ⟨records, last, after, exhausts⟩ := ends
    have verdict := Session.verdict_of_exhausts idle encoding exhausts
    cases last with
    | error error => exact .inr (.inl ⟨_, .broken starts (verdict.failed error rfl).2⟩)
    | ok nothing =>
      -- An export that ends well has read all its lines, and each of them as an object.
      obtain ⟨spawned, _, ⟨report, exit, code⟩, _⟩ := verdict.endsWell.mp rfl
      obtain ⟨_, rest, read⟩ := verdict.completed rfl
      rw [opened] at read
      obtain ⟨rest, inner⟩ := Decoder.exhausts_json_iff.mp ⟨rest, read⟩
      rw [Json.Lines.eq_map_of_exhausts inner] at inner
      obtain ⟨bytes, holds, spells⟩ := Json.Lines.exhausts_ok_iff.mp ⟨rest, inner⟩
      exact .inl ⟨_, .intro starts spawned holds spells exit code⟩
  · -- Without an end the engine was started, and its output is read to none, either.
    have spawned : fresh.engine.spawnError = none := by
      by_contra unstarted
      obtain ⟨error, failed⟩ := Option.ne_none_iff_exists'.mp unstarted
      obtain ⟨after, exhausts, _⟩ := Session.verdict_unstarted idle failed
      exact ends ⟨_, _, after, exhausts⟩
    refine .inr (.inr (.intro starts spawned fun records last rest inner => ends ?_))
    obtain ⟨_, read⟩ := Decoder.exhausts_json_iff.mpr ⟨rest, inner⟩
    rw [← opened] at read
    obtain ⟨after, exhausts, _⟩ := Session.exhausts_of_opened idle spawned read
    exact ⟨_, _, after, exhausts⟩

/-- A text comes to something that is found, to a failure, or to an export that never ends. -/
theorem ways (host : Host) (connection : Connection) (text : String) :
    (∃ objects, Finds host connection text objects) ∨
      (∃ input reason, Fails host connection text input reason) ∨ Endless host connection text := by
  -- The checks are made one after another, and the first that does not hold is the reason.
  cases parsed : Json.parse (Utf8.encode text) with
  | error fault => exact .inr (.inl ⟨_, _, .notJson parsed⟩)
  | ok document =>
    cases read : Job.ofJson document with
    | error fault => exact .inr (.inl ⟨_, _, .notJob parsed read⟩)
    | ok job =>
      cases supported : ObservableType.ofHint? job.dataType with
      | none => exact .inr (.inl ⟨_, _, .refused parsed read (.unsupported supported)⟩)
      | some type =>
        by_cases observable : observableText job.data = ""
        · exact .inr (.inl ⟨_, _, .refused parsed read (.blank supported observable)⟩)
        · cases address : Endpoint.parse (job.settings.endpoint.getD connection.endpoint) with
          | error error =>
            exact .inr (.inl ⟨_, _, .refused parsed read (.unaddressed supported observable address)⟩)
          | ok endpoint =>
            have asks : Asks connection text job type endpoint :=
              ⟨⟨document, parsed, read⟩, supported, observable, address⟩
            by_cases answered : (host (statusCommand connection endpoint)).SucceedsWithin
                (probeTimeout connection)
            · rcases ways_of_starts (.intro parsed asks answered) with found | ⟨reason, fails⟩ | endless
              · exact .inl found
              · exact .inr (.inl ⟨document, reason, fails⟩)
              · exact .inr (.inr endless)
            · exact .inr (.inl ⟨_, _, .silent parsed asks answered⟩)

/-- A host whose engines never hang has no export that never ends. -/
theorem not_endless (live : ∀ command, .hang ∉ (host command).output) :
    ¬Endless host connection text := by
  rintro @⟨_, fresh, starts, _, endless⟩
  have quiet : .hang ∉ fresh.engine.output := by
    cases starts
    exact live _
  have reader : Decoder.IsLive (.json { source := { events := fresh.engine.output } }) := quiet
  -- A reader whose source never hangs reads on to an end.
  obtain ⟨records, last, rest, read, _⟩ := Decoder.exhausts_of_live reader
  obtain ⟨_, inner⟩ := Decoder.exhausts_json_iff.mp ⟨rest, read⟩
  exact endless _ _ _ inner

end

end EngineClient.Analyzer
