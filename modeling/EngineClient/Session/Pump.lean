import EngineClient.Session

/-! Exports as streams, step by step: one task reads events ahead, another one takes them, and there
is room for one item between the two. The one that takes may cancel the stream, and waits for the one
that reads to end. -/

namespace EngineClient

/-- What the task that reads is about to do. -/
inductive Task where
  /-- It reads the next event. -/
  | reading
  /-- It hands an event over as soon as there is room. -/
  | offering (record : Record)
  /-- It hands over the failure that the export has ended with. -/
  | failing (error : Error)
  /-- It has ended. -/
  | ended

/-- Whether the task still goes on with the export. -/
def Task.isActive : Task → Bool
  | .reading | .offering _ => true
  | .failing _ | .ended => false

/-- What waiting for the task brings once it has ended: that it has, and nothing of how it went. -/
def Task.answer? : Task → Option Unit
  | .ended => some ()
  | _ => none

/-- A stream between two steps. -/
structure Pump where
  /-- The export that is read from. -/
  session : Session
  /-- What the reading task is about to do. -/
  task : Task := .reading
  /-- What was handed over and is not taken yet. -/
  room : Option (Except Error Record) := none
  /-- What was taken, in order. -/
  taken : List (Except Error Record) := []
  /-- Whether the stream is wanted: it was neither cancelled nor dropped. -/
  wanted : Bool := true

namespace Pump

variable [Platform]

/-- One step of the reading task or of the one that takes. Whether the stream is wanted is looked at
before anything else, so nothing is read or offered any more once it is not. -/
inductive Step : Pump → Pump → Prop where
  /-- An event is read. -/
  | brings {pump : Pump} {record : Record} {after : Session} (wanted : pump.wanted = true)
    (reading : pump.task = .reading)
    (ran : pump.session.attemptRecord none = .answered (.ok (some record)) after) :
    Step pump { pump with session := after, task := .offering record }
  /-- The export has ended. -/
  | ends {pump : Pump} {after : Session} (wanted : pump.wanted = true)
    (reading : pump.task = .reading)
    (ran : pump.session.attemptRecord none = .answered (.ok none) after) :
    Step pump { pump with session := after, task := .ended }
  /-- The export has failed. -/
  | fails {pump : Pump} {error : Error} {after : Session} (wanted : pump.wanted = true)
    (reading : pump.task = .reading)
    (ran : pump.session.attemptRecord none = .answered (.error error) after) :
    Step pump { pump with session := after, task := .failing error }
  /-- An event is handed over. -/
  | offers {pump : Pump} {record : Record} (wanted : pump.wanted = true)
    (offering : pump.task = .offering record) (free : pump.room = none) :
    Step pump { pump with task := .reading, room := some (.ok record) }
  /-- The failure is handed over, whether it is wanted or not. -/
  | reports {pump : Pump} {error : Error} (failing : pump.task = .failing error)
    (free : pump.room = none) :
    Step pump { pump with task := .ended, room := some (.error error) }
  /-- An item is taken. -/
  | takes {pump : Pump} {item : Except Error Record} (wanted : pump.wanted = true)
    (held : pump.room = some item) :
    Step pump { pump with room := none, taken := pump.taken ++ [item] }
  /-- The stream is cancelled or dropped. -/
  | givesUp {pump : Pump} (wanted : pump.wanted = true) : Step pump { pump with wanted := false }
  /-- The task calls the export off before it reads on, or instead of handing an event over. -/
  | stops {pump : Pump} (unwanted : pump.wanted = false) (active : pump.task.isActive = true) :
    Step pump { pump with session := pump.session.cancel.2, task := .ended }
  /-- The task abandons the reading that it is in, at any time, and calls the export off. -/
  | abandons {pump : Pump} {after : Session} (unwanted : pump.wanted = false)
    (reading : pump.task = .reading) (time : Nat)
    (ran : pump.session.attemptRecord (some time) = .late after) :
    Step pump { pump with session := after.cancel.2, task := .ended }
  /-- The failure is not handed over, as the stream was dropped. -/
  | forgets {pump : Pump} {error : Error} (unwanted : pump.wanted = false)
    (failing : pump.task = .failing error) : Step pump { pump with task := .ended }

/-- How the task of a stream that is cancelled comes to its end, with the export as it is when the
task hears of it. The stream is kept until then, so that the task does not end as long as it has a
failure to hand over and finds no room for it. -/
inductive Cancels (pump : Pump) : Session → Pump → Prop where
  /-- The task calls the export off before it reads on, or instead of handing an event over. -/
  | stops (active : pump.task.isActive = true) :
    Cancels pump pump.session
      { pump with session := pump.session.cancel.2, task := .ended, wanted := false }
  /-- The task abandons the reading that it is in, at any time, and calls the export off. -/
  | abandons {after : Session} (reading : pump.task = .reading) (time : Nat)
    (ran : pump.session.attemptRecord (some time) = .late after) :
    Cancels pump after { pump with session := after.cancel.2, task := .ended, wanted := false }
  /-- The task hands over the failure that the export has ended with. -/
  | reports {error : Error} (failing : pump.task = .failing error) (free : pump.room = none) :
    Cancels pump pump.session
      { pump with task := .ended, room := some (.error error), wanted := false }
  /-- The task has ended before. -/
  | ended (done : pump.task = .ended) : Cancels pump pump.session { pump with wanted := false }

/-- What the one who cancels a stream is answered once the task has ended. -/
def cancelAnswer? (pump : Pump) : Option (Except Error Unit) :=
  pump.task.answer?.map .ok

end Pump

end EngineClient
