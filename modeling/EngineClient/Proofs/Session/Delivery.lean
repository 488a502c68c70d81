import EngineClient.Proofs.Session.Processes

/-! A stream hands out what reading the export directly would, whichever of its two tasks goes first. -/

namespace EngineClient.Session

variable [Platform]

/-- The first answers to calls for the next event: events, and a failure as the last one. -/
def firstItems : Nat → Session → List (Except Error Record)
  | 0, _ => []
  | count + 1, session =>
    match session.nextRecord with
    | some (.ok (some record), next) => .ok record :: firstItems count next
    | some (.error error, _) => [.error error]
    -- The export has ended, or the next answer never comes.
    | _ => []

/-- The items that calls for the next event answer one after another, and the export that they leave;
`none` where they have come to its end or to a failure. -/
inductive Delivers : Session → List (Except Error Record) → Option Session → Prop where
  /-- No call is made any more. -/
  | paused (session : Session) : Delivers session [] (some session)
  /-- An event comes before the other items. -/
  | event {session next : Session} {record : Record} {items : List (Except Error Record)}
    {left : Option Session} (answered : session.nextRecord = some (.ok (some record), next))
    (behind : Delivers next items left) : Delivers session (.ok record :: items) left
  /-- The export has ended. -/
  | ended {session next : Session} (answered : session.nextRecord = some (.ok none, next)) :
    Delivers session [] none
  /-- The export has failed. -/
  | failed {session next : Session} {error : Error}
    (answered : session.nextRecord = some (.error error, next)) :
    Delivers session [.error error] none

namespace Delivers

variable {session middle : Session} {items others : List (Except Error Record)}
  {left : Option Session}

/-- Calls that go on where others were paused answer what comes behind. -/
theorem append (first : Delivers session items (some middle)) (second : Delivers middle others left) :
    Delivers session (items ++ others) left := by
  -- The place of the pause is generalised, as the induction is on the calls before it.
  generalize paused : some middle = place at first
  induction first with
  | paused session =>
    cases paused
    exact second
  | event answered behind ih => exact .event answered (ih paused)
  | ended answered => cases paused
  | failed answered => cases paused

/-- The items that were answered are the first ones, and those of the export that is left follow. -/
theorem firstItems_add (delivers : Delivers session items left) (count : Nat) :
    session.firstItems (items.length + count)
      = items ++ (left.map (firstItems count)).getD [] := by
  -- The induction is on the items that were delivered.
  induction delivers with
  | paused session => simp
  | event answered behind ih =>
    rw [List.length_cons, Nat.add_right_comm, firstItems, answered]
    exact congrArg _ ih
  | ended answered =>
    -- An end is no item, so nothing comes however often the call is made.
    cases count <;> simp [firstItems, answered]
  | failed answered =>
    rw [List.length_singleton, Nat.add_comm, firstItems, answered]
    rfl

end Delivers

/-- Fewer of the first items are the first ones of more. -/
theorem take_firstItems (session : Session) (fewer more : Nat) :
    (session.firstItems (fewer + more)).take fewer = session.firstItems fewer := by
  induction fewer generalizing session with
  | zero => rw [List.take_zero, firstItems]
  | succ fewer ih =>
    rw [Nat.add_right_comm]
    -- Both look at the same answer, and only an event is followed by others.
    simp only [firstItems]
    split
    · rw [List.take_succ_cons, ih]
    · simp
    · simp

/-- Only the last of the first items can be a failure. -/
theorem isOk_of_mem_firstItems {session : Session} {count : Nat} {item : Except Error Record}
    (member : item ∈ (session.firstItems count).dropLast) : ∃ record, item = .ok record := by
  -- The induction is on the calls; only the last one can fail.
  induction count generalizing session with
  | zero => simp [firstItems] at member
  | succ count ih =>
    rw [firstItems] at member
    split at member
    · rename_i record next answered
      cases others : next.firstItems count with
      | nil => simp [others] at member
      | cons other rest =>
        -- The event at the front is not the last item, and the others are behind it.
        rw [others, List.dropLast_cons_cons, ← others, List.mem_cons] at member
        exact member.elim (fun same => ⟨record, same⟩) ih
    · simp at member
    · simp at member

end EngineClient.Session

namespace EngineClient

open Session

/-- The item that the task is about to hand over. -/
def Task.held : Task → List (Except Error Record)
  | .offering record => [.ok record]
  | .failing error => [.error error]
  | .reading | .ended => []

namespace Pump

/-- The items that were read, in order: those taken, the one in the room and the one in hand. -/
def handed (pump : Pump) : List (Except Error Record) :=
  pump.taken ++ pump.room.toList ++ pump.task.held

/-- The export that the task still reads from, if it does. -/
def left (pump : Pump) : Option Session :=
  if pump.task.isActive then some pump.session else none

/-- A stream of an export that has taken the first items of direct reading. As long as it is wanted,
all that was read are the first items, and the task goes on behind them. -/
structure Follows [Platform] (fresh : Session) (pump : Pump) : Prop where
  taken : pump.taken = fresh.firstItems pump.taken.length
  delivers : pump.wanted = true → Delivers fresh pump.handed pump.left

section

variable {fresh : Session} {pump next : Pump}

/-- What was read are the first items, so what was taken of it are the first ones, too. -/
theorem taken_of_delivers [Platform] (delivers : Delivers fresh pump.handed pump.left) :
    pump.taken = fresh.firstItems pump.taken.length := by
  have whole : fresh.firstItems pump.handed.length = pump.handed := by
    have known := delivers.firstItems_add 0
    rw [Nat.add_zero] at known
    rw [known]
    -- Behind what was read nothing is asked for.
    cases pump.left <;> simp [firstItems]
  -- The taken items are the front of all that was read.
  obtain ⟨more, size⟩ : ∃ more, pump.handed.length = pump.taken.length + more :=
    ⟨_, by rw [handed, List.append_assoc, List.length_append]⟩
  have front : pump.handed.take pump.taken.length = pump.taken := by
    rw [handed, List.append_assoc, List.take_left]
  rw [← take_firstItems fresh pump.taken.length more, ← size, whole, front]

/-- A step of a wanted stream goes on with direct reading. -/
theorem Step.delivers [Platform] (step : pump.Step next) (wanted : next.wanted = true)
    (before : pump.wanted = true → Delivers fresh pump.handed pump.left) :
    Delivers fresh next.handed next.left := by
  -- An answer of the export is one of direct reading.
  have answered {answer : Except Error (Option Record)} {after : Session}
      (ran : pump.session.attemptRecord none = .answered answer after) :
      pump.session.nextRecord = some (answer, after) := Attempt.answer?_eq_some.mpr ran
  cases step with
  | brings _ reading ran =>
    have known := before wanted
    simp only [handed, left, reading, Task.held, Task.isActive, if_true, List.append_nil] at known ⊢
    exact known.append (.event (answered ran) (.paused _))
  | ends _ reading ran =>
    have known := before wanted
    simp only [handed, left, reading, Task.held, Task.isActive, if_true, List.append_nil] at known ⊢
    -- An end adds no item, but nothing comes behind it.
    have whole := known.append (.ended (answered ran))
    rw [List.append_nil] at whole
    exact whole
  | fails _ reading ran =>
    have known := before wanted
    simp only [handed, left, reading, Task.held, Task.isActive, if_true, List.append_nil] at known ⊢
    exact known.append (.failed (answered ran))
  -- Handing over and taking move an item from one place to the next, in the same order.
  | offers _ offering free =>
    simpa [handed, left, offering, free, Task.held, Task.isActive] using before wanted
  | reports failing free =>
    simpa [handed, left, failing, free, Task.held, Task.isActive] using before wanted
  | takes _ held => simpa [handed, left, held] using before wanted
  | givesUp => cases wanted
  -- A stream that is not wanted stays so.
  | stops unwanted => cases unwanted.symm.trans wanted
  | abandons unwanted => cases unwanted.symm.trans wanted
  | forgets unwanted => cases unwanted.symm.trans wanted

/-- A stream that is not wanted takes nothing. -/
theorem Step.taken [Platform] (step : pump.Step next) (unwanted : next.wanted = false) :
    next.taken = pump.taken := by
  cases step with
  | takes wanted held => cases unwanted.symm.trans wanted
  | _ => rfl

/-- A step keeps a stream with direct reading. -/
theorem Step.follows [Platform] (step : pump.Step next) (follows : Follows fresh pump) :
    Follows fresh next := by
  -- Once the stream is no longer wanted nothing more is taken.
  cases wanted : next.wanted with
  | true =>
    have delivers := step.delivers wanted follows.delivers
    exact ⟨taken_of_delivers delivers, fun _ => delivers⟩
  | false =>
    refine ⟨?_, fun absurd => nomatch wanted.symm.trans absurd⟩
    rw [step.taken wanted]
    exact follows.taken

/-- Every run keeps a stream with direct reading. -/
theorem Reaches.follows [Platform] (reaches : Reaches { session := fresh } pump) :
    Follows fresh pump := by
  induction reaches with
  | refl => exact ⟨rfl, fun _ => .paused fresh⟩
  | tail before step ih => exact step.follows ih

/-- How much the task still has to do with the export, whatever it reads. -/
def stage : Task → Nat
  | .reading | .offering _ => 2
  | .failing _ => 1
  | .ended => 0

/-- How far the items on their way still have to go: one in hand has two places before it, one in the
room has one. -/
def distance (pump : Pump) : Nat :=
  2 * pump.task.held.length + pump.room.toList.length

/-- What is still to be done as long as a stream is wanted, the task before what is left of the
export before the items on their way. -/
def work (pump : Pump) : Nat × (Nat × Nat) × Nat :=
  (stage pump.task, pump.session.remaining, pump.distance)

/-- Less is to be done, where the first part that differs is less. -/
def Less : Nat × (Nat × Nat) × Nat → Nat × (Nat × Nat) × Nat → Prop :=
  Prod.Lex (· < ·) (Prod.Lex (Prod.Lex (· < ·) (· < ·)) (· < ·))

/-- There is no end to doing less only where there is nothing to be done. -/
theorem wellFounded_less : WellFounded Less :=
  (Prod.lex Nat.lt_wfRel (Prod.lex (Prod.lex Nat.lt_wfRel Nat.lt_wfRel) Nat.lt_wfRel)).wf

variable [Platform]

/-- A step of a wanted stream leaves less to be done. -/
theorem Step.less (step : pump.Step next) (wanted : next.wanted = true) :
    Less next.work pump.work := by
  cases step with
  -- Reading leaves less of the export, or is the last that is done with it.
  | brings _ reading ran =>
    have less := Prod.lex_def.mpr (attemptRecord_remaining ran)
    simp only [work, reading]
    exact .right _ (.left _ _ less)
  | ends _ reading ran =>
    have less : stage .ended < stage .reading := by decide
    simp only [work, reading]
    exact .left _ _ less
  | @fails error _ _ reading ran =>
    have less : stage (.failing error) < stage .reading := Nat.one_lt_two
    simp only [work, reading]
    exact .left _ _ less
  | @reports error failing free =>
    have less : stage .ended < stage (.failing error) := Nat.one_pos
    simp only [work, failing]
    exact .left _ _ less
  -- Handing an event over and taking leave task and export as they are, and an item less far to go.
  | offers _ offering free =>
    simp only [work, distance, offering, free]
    exact .right _ (.right _ Nat.one_lt_two)
  | takes _ held =>
    simp only [work, distance, held]
    exact .right _ (.right _ (Nat.lt_succ_self _))
  -- The other steps are made only when the stream is no longer wanted.
  | givesUp => cases wanted
  | stops unwanted => cases unwanted.symm.trans wanted
  | abandons unwanted => cases unwanted.symm.trans wanted
  | forgets unwanted => cases unwanted.symm.trans wanted

/-- No stream goes on for ever while it is wanted. -/
theorem wellFounded_step :
    WellFounded fun next pump : Pump => pump.Step next ∧ next.wanted = true :=
  Subrelation.wf (fun {_ _} step => step.1.less step.2) (InvImage.wf work wellFounded_less)

/-- Whether a stream does nothing more unless it is given up. -/
def Rests (pump : Pump) : Prop :=
  ∀ next, pump.Step next → next.wanted = false

/-- A wanted stream that rests has nothing left in the room. -/
theorem Rests.room (rests : pump.Rests) (wanted : pump.wanted = true) : pump.room = none := by
  cases held : pump.room with
  | none => rfl
  | some item =>
    -- What is in the room could be taken.
    have unwanted := rests _ (.takes wanted held)
    cases wanted.symm.trans unwanted

/-- Where the task of a wanted stream rests, it has ended, or the next answer never comes. -/
theorem Rests.task (rests : pump.Rests) (wanted : pump.wanted = true) :
    pump.task = .ended ∨ pump.task = .reading ∧ pump.session.nextRecord = none := by
  have free := rests.room wanted
  -- Whatever else the task could do would be a step that is still wanted.
  have silent {next : Pump} (step : pump.Step next) (same : next.wanted = pump.wanted) : False := by
    have unwanted := rests next step
    cases (same.trans wanted).symm.trans unwanted
  cases task : pump.task with
  | offering record => exact (silent (.offers wanted task free) rfl).elim
  | failing error => exact (silent (.reports task free) rfl).elim
  | ended => exact .inl rfl
  | reading =>
    refine .inr ⟨rfl, ?_⟩
    rw [nextRecord]
    -- A reading that brings an answer would be a step, so there is none.
    cases ran : pump.session.attemptRecord none with
    | late after => rfl
    | answered answer after =>
      rcases answer with error | (_ | record)
      · exact (silent (.fails wanted task ran) rfl).elim
      · exact (silent (.ends wanted task ran) rfl).elim
      · exact (silent (.brings wanted task ran) rfl).elim

/-- A wanted stream whose task has ended and whose room is empty is at the end of direct reading. -/
theorem Follows.ended (follows : Follows fresh pump) (wanted : pump.wanted = true)
    (ended : pump.task = .ended) (free : pump.room = none) : Delivers fresh pump.taken none := by
  have delivers := follows.delivers wanted
  simpa [handed, left, free, ended, Task.held, Task.isActive] using delivers

/-- A wanted stream that rests has taken all that direct reading brings. -/
theorem Follows.rests (follows : Follows fresh pump) (wanted : pump.wanted = true)
    (rests : pump.Rests) (count : Nat) :
    fresh.firstItems (pump.taken.length + count) = pump.taken := by
  have free := rests.room wanted
  -- The task has ended, or reads without ever getting an answer.
  rcases rests.task wanted with ended | ⟨reading, silent⟩
  · rw [(follows.ended wanted ended free).firstItems_add count]
    exact List.append_nil _
  · -- All that was read is taken, and the export that is left brings nothing.
    have delivers : Delivers fresh pump.taken (some pump.session) := by
      have known := follows.delivers wanted
      simpa [handed, left, free, reading, Task.held, Task.isActive] using known
    have nothing : pump.session.firstItems count = [] := by
      cases count <;> simp [firstItems, silent]
    rw [delivers.firstItems_add count, Option.map_some, Option.getD_some, nothing]
    exact List.append_nil _

end

end Pump

variable [Platform]

namespace Session

/-- Taking a number of events from a stream takes the first items of direct reading. -/
theorem takeItems_eq_firstItems {count : Nat} {session : Session} {taken : Taken}
    (ran : session.takeItems (some count) = some taken) :
    taken.items = session.firstItems count := by
  generalize most : some count = limit at ran
  -- The induction is on the events taken; what they leave of the number counts the rest.
  fun_induction takeItems limit session generalizing count taken with
  | case1 session =>
    cases most
    cases ran
    rw [firstItems]
  | case2 => cases ran
  | case3 limit session going error after brought =>
    obtain _ | count := count
    · exact absurd most.symm going
    · cases ran
      rw [firstItems, nextRecord, brought]
      rfl
  | case4 limit session going after brought =>
    obtain _ | count := count
    · exact absurd most.symm going
    · cases ran
      rw [firstItems, nextRecord, brought]
      rfl
  -- The event is the first item, and the others are by induction.
  | case5 limit session going record after brought ih =>
    obtain _ | count := count
    · exact absurd most.symm going
    · obtain ⟨others, behind, rfl⟩ := Option.map_eq_some_iff.mp ran
      have rest : others.items = after.firstItems count := by
        refine ih ?_ behind
        rw [← most]
        rfl
      rw [firstItems, nextRecord, brought]
      exact congrArg _ rest

/-- What is taken from a stream are the first items of direct reading. -/
theorem stream_eq_firstItems {count : Nat} {session : Session} {taken : Taken}
    (ran : session.stream (some count) = some taken) :
    taken.items = session.firstItems count := by
  -- A stream that nothing is taken from does not even start.
  unfold stream at ran
  split at ran
  · rename_i none
    cases none
    cases ran
    rw [firstItems]
  · exact takeItems_eq_firstItems ran

end Session

end EngineClient
