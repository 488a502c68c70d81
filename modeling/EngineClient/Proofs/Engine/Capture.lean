import EngineClient.Engine.Process
import EngineClient.Proofs.Engine.Exit

/-! However an error output arrives, all of it is read and its beginning is kept. -/

namespace EngineClient.Capture

/-- The chunks that reads bring before one of them fails. -/
def chunksOf : List StderrRead → List Bytes
  | [] => []
  | .chunk bytes :: rest => bytes :: chunksOf rest
  | .failure :: _ => []

/-- The reads behind the first one that fails. -/
def behindFailure : List StderrRead → List StderrRead
  | [] => []
  | .chunk _ :: rest => behindFailure rest
  | .failure :: rest => rest

/-- Keeping one more chunk keeps the beginning of all that was read. -/
theorem keep_take (read chunk : Bytes) :
    keep (read.take limit) chunk = (read ++ chunk).take limit := by
  -- What was read before, be it kept or not, leaves as much room.
  have room : limit - (read.take limit).length = limit - read.length := by
    rw [List.length_take]
    omega
  rw [keep, room, List.take_append]

/-- Reading chunks keeps the beginning of all that was read, and goes on with what is behind them. -/
theorem readFrom_chunks (read : Bytes) (chunks : List Bytes) (behind : List StderrRead) :
    readFrom (read.take limit) (chunks.map .chunk ++ behind)
      = readFrom ((read ++ chunks.flatten).take limit) behind := by
  -- The induction is on the chunks, each of which is read whether there is room for it or not.
  induction chunks generalizing read with
  | nil => rw [List.flatten_nil, List.append_nil, List.map_nil, List.nil_append]
  | cons chunk chunks ih =>
    rw [List.map_cons, List.cons_append, readFrom, keep_take, ih, List.flatten_cons,
      List.append_assoc]

/-- Behind some chunks the beginning of these is kept. -/
theorem ofReads_chunks (chunks : List Bytes) (behind : List StderrRead) :
    ofReads (chunks.map .chunk ++ behind) = readFrom (chunks.flatten.take limit) behind :=
  readFrom_chunks [] chunks behind

/-- Reads are chunks and what ends them, which leaves the bytes that are kept as they are. -/
theorem exists_ending (reads : List StderrRead) :
    ∃ ending, reads = (chunksOf reads).map .chunk ++ ending ∧
      ∀ held, readFrom held ending = { held, unread := behindFailure reads } := by
  induction reads with
  | nil => exact ⟨[], rfl, fun _ => rfl⟩
  | cons first rest ih =>
    cases first with
    -- A chunk is read on the way, and the first failure is the ending.
    | chunk bytes =>
      obtain ⟨ending, split, ends⟩ := ih
      exact ⟨ending, congrArg (StderrRead.chunk bytes :: ·) split, ends⟩
    | failure => exact ⟨.failure :: rest, rfl, fun _ => rfl⟩

/-- All reads up to the first that fails are made, and the beginning of what they bring is kept. -/
theorem ofReads_eq (reads : List StderrRead) :
    ofReads reads
      = { held := (chunksOf reads).flatten.take limit, unread := behindFailure reads } := by
  -- The chunks come first, and then what ends the reading.
  obtain ⟨ending, split, ends⟩ := exists_ending reads
  calc ofReads reads
      = ofReads ((chunksOf reads).map .chunk ++ ending) := congrArg ofReads split
    _ = readFrom ((chunksOf reads).flatten.take limit) ending := ofReads_chunks _ ending
    _ = { held := (chunksOf reads).flatten.take limit, unread := behindFailure reads } := ends _

/-- The report on a process tells the beginning of its error output. -/
theorem report_eq (code : Option Int) (reads : List StderrRead) :
    Process.report code reads = ⟨code, Utf8.decodeLossy ((chunksOf reads).flatten.take limit)⟩ := by
  rw [Process.report, ofReads_eq]

/-- Whatever chunks an error output arrives in, and however the reading ends, what is kept at every
moment are the first 65536 bytes of what has arrived. Reading goes on when there is no more room, up
to the end or the first read that fails. The report tells those bytes and no others, and they alone
decide whether a failed end is one of an engine that reached no node; so outputs that begin alike are
reported and judged alike, whatever chunks they arrive in. -/
theorem beginning_kept (reads : List StderrRead) :
    (∀ (chunks : List Bytes) (behind : List StderrRead), reads = chunks.map .chunk ++ behind →
      (ofReads (chunks.map .chunk)).held = chunks.flatten.take 65536 ∧
      ofReads reads = readFrom (ofReads (chunks.map .chunk)).held behind) ∧
    (ofReads reads).held.length = min 65536 (chunksOf reads).flatten.length ∧
    (ofReads reads).unread = behindFailure reads ∧
    (∀ code : Option Int, Process.report code reads
      = ⟨code, Utf8.decodeLossy ((chunksOf reads).flatten.take 65536)⟩) ∧
    (∀ (code : Option Int) (invocation : Invocation), code ≠ some 0 →
      ∃ error, (Process.report code reads).check invocation = .error error ∧
        error.kind = if ExitReport.tellsConnectFailure
          (Utf8.decodeLossy ((chunksOf reads).flatten.take 65536)) then .unreachable
          else .execution) ∧
    (∀ others : List StderrRead,
      (chunksOf others).flatten.take 65536 = (chunksOf reads).flatten.take 65536 →
      ∀ (code : Option Int) (invocation : Invocation),
        Process.report code others = Process.report code reads ∧
        (Process.report code others).check invocation
          = (Process.report code reads).check invocation) := by
  have whole : limit = 65536 := rfl
  refine ⟨fun chunks behind split => ?_, ?_, ?_, fun code => ?_, fun code invocation failed => ?_,
    fun others alike code invocation => ?_⟩
  · -- The moment behind some chunks is the end of reading these alone.
    have held : ofReads (chunks.map .chunk) = { held := chunks.flatten.take limit } := by
      have read := ofReads_chunks chunks []
      rw [List.append_nil] at read
      exact read
    rw [held, split]
    exact ⟨rfl, ofReads_chunks chunks behind⟩
  · rw [ofReads_eq, List.length_take, whole]
  · rw [ofReads_eq]
  · rw [report_eq, whole]
  · rw [report_eq, whole]
    exact ExitReport.check_failed failed invocation
  · -- What begins alike is kept alike, and nothing else goes into the report.
    have same : Process.report code others = Process.report code reads := by
      rw [report_eq, report_eq, whole, alike]
    exact ⟨same, by rw [same]⟩

end EngineClient.Capture
