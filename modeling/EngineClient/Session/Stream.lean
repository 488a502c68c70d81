import EngineClient.Session.Pump

/-! Exports as streams: a second task reads one event ahead of the one that takes them. -/

namespace EngineClient.Session

variable [Platform]

/-- What was taken from a stream, and the session when it is given up. -/
structure Taken where
  /-- The events in order; a failure comes last. -/
  items : List (Except Error Record)
  /-- The session behind them. -/
  session : Session

/-- The stream behind what was taken from it; its task has ended. -/
def Taken.pump (taken : Taken) : Pump :=
  { session := taken.session, task := .ended, taken := taken.items, wanted := false }

/-- Puts an event before those taken behind it. -/
def Taken.cons (record : Record) (taken : Taken) : Taken :=
  { taken with items := .ok record :: taken.items }

/-- What becomes of a session whose stream is given up: the next event was already asked for. -/
def giveUp (session : Session) : Session :=
  -- An answer that needs no wait is there before anyone hears that it is not wanted.
  match session.attemptRecord (some session.now) with
  | .answered (.ok (some _)) session => session.cancel.2
  | .answered _ session => session
  | .late session => session.cancel.2

/-- Takes events until the end, the first failure or a number of them; `none` where it never ends. -/
def takeItems (most : Option Nat) (session : Session) : Option Taken :=
  if most = some 0 then some ⟨[], session.giveUp⟩
  else
    match _ran : session.attemptRecord none with
    | .late _ => none
    | .answered (.error error) session => some ⟨[.error error], session⟩
    | .answered (.ok none) session => some ⟨[], session⟩
    | .answered (.ok (some record)) session =>
      (session.takeItems (most.map (· - 1))).map (Taken.cons record)
termination_by session.remaining
decreasing_by exact Prod.lex_def.mpr (attemptRecord_remaining _ran)

/-- Takes events from a stream and gives it up; where none is taken, nothing was asked for yet. -/
def stream (most : Option Nat) (session : Session) : Option Taken :=
  if most = some 0 then some ⟨[], session.cancel.2⟩ else session.takeItems most

end EngineClient.Session
