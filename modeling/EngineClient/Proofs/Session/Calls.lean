import EngineClient.Session.Collect

/-! Calls on an export, one after another, and what they reply. -/

namespace EngineClient.Session

/-- A call on an export. -/
inductive Call where
  /-- The next event is asked for. -/
  | record
  /-- The next batch is asked for. -/
  | batch
  /-- The export is called off. -/
  | cancel
  /-- What is left is gathered into tables. -/
  | collect (bound : CollectBound)
  /-- The export is let go of. -/
  | drop
deriving DecidableEq, Repr

/-- What an export replies to a call. -/
inductive Reply where
  | record (answer : Except Error (Option Record))
  | batch (answer : Except Error (Option Arrow.NamedBatch))
  | cancelled (answer : Except Error Unit)
  | tables (answer : Except Error Tables)
  | dropped

/-- The failure that an answer is, if it is one. -/
def failureOf {α : Type} : Except Error α → Option Error
  | .error error => some error
  | .ok _ => none

namespace Reply

/-- The failure that a reply is, if it is one. -/
def failure? : Reply → Option Error
  | .record answer => failureOf answer
  | .batch answer => failureOf answer
  | .cancelled answer => failureOf answer
  | .tables answer => failureOf answer
  | .dropped => none

/-- Whether a reply hands out an event or a batch. -/
def bringsData : Reply → Bool
  | .record (.ok (some _)) | .batch (.ok (some _)) => true
  | .tables (.ok gathered) => !gathered.entries.isEmpty
  | _ => false

end Reply

/-- What comes of a call. -/
structure Outcome where
  /-- The reply; `none` where it never comes. -/
  reply : Option Reply
  /-- The session behind the call. -/
  session : Session

/-- The failure that a call is answered with, if it is one. -/
def Outcome.failure? (outcome : Outcome) : Option Error :=
  outcome.reply.bind Reply.failure?

namespace Attempt

/-- The session behind an attempt. -/
def session {α : Type} : Attempt α → Session
  | .answered _ session | .late session => session

/-- The failure that an attempt answers, if it is one. -/
def failure? {α : Type} : Attempt α → Option Error
  | .answered answer _ => failureOf answer
  | .late _ => none

/-- An attempt without a limit as a call. -/
def outcome {α : Type} (wrap : Except Error α → Reply) : Attempt α → Outcome
  | .answered answer session => ⟨some (wrap answer), session⟩
  | .late session => ⟨none, session⟩

/-- Behind the call the session is the one that the attempt leaves. -/
@[simp] theorem outcome_session {α : Type} (wrap : Except Error α → Reply) (attempt : Attempt α) :
    (attempt.outcome wrap).session = attempt.session := by
  cases attempt <;> rfl

/-- A failed attempt is a failed call. -/
theorem outcome_failure {α : Type} {wrap : Except Error α → Reply}
    (wrapped : ∀ answer, (wrap answer).failure? = failureOf answer) (attempt : Attempt α) :
    (attempt.outcome wrap).failure? = attempt.failure? := by
  -- What is too late is no reply at all, and so no failure either.
  cases attempt with
  | answered answer session => exact wrapped answer
  | late session => rfl

end Attempt

variable [Platform]

/-- Makes a call on an export. -/
def make (call : Call) (session : Session) : Outcome :=
  match call with
  | .record => (session.attemptRecord none).outcome .record
  | .batch => (session.attemptBatch none).outcome .batch
  | .cancel => ⟨some (.cancelled session.cancel.1), session.cancel.2⟩
  | .collect bound =>
    match session.attemptCollect bound with
    | some attempt => attempt.outcome .tables
    -- A call that breaks off has not touched the export.
    | none => ⟨none, session⟩
  | .drop => ⟨some .dropped, session.release⟩

/-- Makes calls one after another, as long as they come back and the export is not let go of. -/
def run : List Call → Session → List Reply × Session
  | [], session => ([], session)
  -- A call that never comes back is the last one, and so is letting go.
  | call :: rest, session =>
    match session.make call with
    | ⟨none, after⟩ => ([], after)
    | ⟨some reply, after⟩ =>
      if call = .drop then ([reply], after)
      else (reply :: (after.run rest).1, (after.run rest).2)

/-- What every call keeps holds at the end of a run in which the export is not let go of. -/
theorem run_keeps {Kept : Session → Prop} {calls : List Call}
    (keeps : ∀ session, ∀ call ∈ calls, call ≠ .drop → Kept session →
      Kept (session.make call).session)
    (held : .drop ∉ calls) {session : Session} (kept : Kept session) :
    Kept (session.run calls).2 := by
  -- A run stops early only at a call that never comes back, and that call keeps it too.
  induction calls generalizing session with
  | nil => exact kept
  | cons call rest ih =>
    rw [List.mem_cons, not_or] at held
    have after : Kept (session.make call).session :=
      keeps session call List.mem_cons_self (Ne.symm held.1) kept
    have others : ∀ session, ∀ call ∈ rest, call ≠ .drop → Kept session →
        Kept (session.make call).session := fun session call member =>
      keeps session call (List.mem_cons_of_mem _ member)
    unfold run
    -- A call that never comes back is the last one.
    split
    · rename_i made
      rw [made] at after
      exact after
    · rename_i made
      rw [made] at after
      rw [if_neg (Ne.symm held.1)]
      exact ih others held.2 after

/-- Only letting go is replied to as such. -/
theorem make_dropped {session : Session} {call : Call}
    (dropped : (session.make call).reply = some .dropped) : call = .drop := by
  -- Each other kind of call has a reply of its own kind.
  cases call with
  | record =>
    simp only [make] at dropped
    cases ran : session.attemptRecord none <;> simp [ran, Attempt.outcome] at dropped
  | batch =>
    simp only [make] at dropped
    cases ran : session.attemptBatch none <;> simp [ran, Attempt.outcome] at dropped
  | cancel => simp [make] at dropped
  | collect bound =>
    simp only [make] at dropped
    cases collected : session.attemptCollect bound with
    | none => simp [collected] at dropped
    | some attempt => cases attempt <;> simp [collected, Attempt.outcome] at dropped
  | drop => rfl

/-- A run ends where one without letting go ends, of which it makes the calls, or by letting go
there. -/
theorem run_ends (calls : List Call) (session : Session) :
    ∃ others : List Call, others <+: calls ∧ .drop ∉ others ∧
      ((session.run calls).2 = (session.run others).2 ∧ .dropped ∉ (session.run calls).1 ∨
        (session.run calls).2 = (session.run others).2.release) := by
  -- The induction is on the calls; nothing behind the first that lets go is made.
  induction calls generalizing session with
  | nil => exact ⟨[], List.nil_prefix, List.not_mem_nil, .inl ⟨rfl, List.not_mem_nil⟩⟩
  | cons call rest ih =>
    by_cases drop : call = .drop
    · subst drop
      exact ⟨[], List.nil_prefix, List.not_mem_nil, .inr rfl⟩
    · -- The call comes before those of the run behind it, unless it never comes back.
      obtain ⟨others, front, held, ends⟩ := ih (session.make call).session
      refine ⟨call :: others, (List.cons_prefix_cons).mpr ⟨rfl, front⟩, by simp [Ne.symm drop, held], ?_⟩
      have other : (session.make call).reply ≠ some .dropped := fun dropped =>
        drop (make_dropped dropped)
      unfold run
      cases made : session.make call with
      | mk reply after =>
        rw [made] at ends other
        cases reply with
        | none => exact .inl ⟨rfl, List.not_mem_nil⟩
        | some reply =>
          simp only [if_neg drop]
          -- The run behind the call ends without letting go, or with it.
          rcases ends with ⟨same, absent⟩ | released
          · have first : .dropped ≠ reply := fun same => other (by rw [← same])
            exact .inl ⟨same, by simp [first, absent]⟩
          · exact .inr released

end EngineClient.Session
