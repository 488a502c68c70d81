import EngineClient.Session
import EngineClient.Tables

/-! Gathering an export into tables, within bounds on rows and time. -/

namespace EngineClient

/-- Limits on gathering; the one that is reached first ends it. -/
structure CollectBound where
  /-- How many rows are wanted at most. -/
  maxRows : Option UInt64 := none
  /-- How many milliseconds it may take. -/
  timeout : Option Nat := none
deriving DecidableEq, Repr

namespace CollectBound

/-- Whether there is no limit. -/
def isUnbounded (bound : CollectBound) : Bool :=
  bound.maxRows.isNone && bound.timeout.isNone

end CollectBound

namespace Session

variable [Platform]

/-- Only Arrow exports come in batches. -/
def noTables : Error :=
  { kind := .usage, message := some "tables require an arrow export"
    hint := some "Build the request with Encoding::Arrow." }

/-- An export that does not end by itself cannot be gathered without a limit. -/
def needsBound (mode : ExportMode) : Error :=
  { kind := .usage
    message := some ("collecting a " ++ mode.name
      ++ " export needs max_rows, timeout, or max_events")
    hint := some "Set CollectBound::max_rows or CollectBound::timeout." }

/-- Calls the export off because a limit is reached; the tables are the answer if that works. -/
def stopWith (tables : Tables) (session : Session) : Except Error Tables × Session :=
  (session.cancel.1.map fun _ => tables, session.cancel.2)

/-- Whether as many rows are there as are wanted. -/
def enough (maxRows : Option UInt64) (rows : UInt64) : Bool :=
  match maxRows with
  | some most => most ≤ rows
  | none => false

/-- A batch without the rows beyond those wanted. -/
def trimBatch (maxRows : Option UInt64) (rows : UInt64) (batch : Arrow.NamedBatch) :
    Arrow.NamedBatch :=
  match maxRows with
  | some most =>
    -- The sum starts again at nothing where it grows too great.
    if most < rows + batch.numRows then
      { batch with table := batch.table.take (most - rows).toNat }
    else batch
  | none => batch

/-- Gathers batches onto tables with a number of rows, within limits on time and rows. -/
def gather (limit : Option Nat) (maxRows : Option UInt64) (rows : UInt64) (tables : Tables)
    (session : Session) : Attempt Tables :=
  if enough maxRows rows then .answered (session.stopWith tables).1 (session.stopWith tables).2
  else
    match _ran : session.attemptBatch limit with
    | .late session =>
      -- Without a limit on time nothing ends the wait.
      if limit.isSome then .answered (session.stopWith tables).1 (session.stopWith tables).2
      else .late session
    | .answered (.error error) session => .answered (.error error) session
    | .answered (.ok none) session => .answered (.ok tables) session
    | .answered (.ok (some batch)) session =>
      -- All rows of a batch count as handed out, those beyond the wanted ones too.
      let batch := trimBatch maxRows rows batch
      session.gather limit maxRows (rows + batch.numRows) (tables.push batch)
termination_by session.remaining
decreasing_by exact Prod.lex_def.mpr (attemptBatch_remaining _ran)

/-- The instant at which gathering has to end; the time counts from now on, not from the start of
the export. -/
def deadline (bound : CollectBound) (session : Session) : Option Nat :=
  bound.timeout.map (session.now + ·)

/-- Gathers what is left of an export into tables; `none` where the clock cannot tell the instant at
which this has to end, and the call breaks off before it has touched the export. -/
def attemptCollect (bound : CollectBound) (session : Session) : Option (Attempt Tables) :=
  if session.request.encoding = .json then some (.answered (.error noTables) session)
  else if !mayEnd session.request && bound.isUnbounded then
    some (.answered (.error (needsBound session.request.mode)) session)
  else if (session.deadline bound).all (· ≤ Platform.lastInstant) then
    some (session.gather (session.deadline bound) bound.maxRows 0 {})
  else none

/-- Gathers what is left of an export into tables, however long it takes; `none` where it never
ends, or breaks off. -/
def collect (bound : CollectBound) (session : Session) : Option (Except Error Tables × Session) :=
  (session.attemptCollect bound).bind Attempt.answer?

end Session

end EngineClient
