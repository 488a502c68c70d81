import EngineClient.Proofs.Decoder
import EngineClient.Proofs.Session.Attempts
import EngineClient.Proofs.Session.Calls

/-! An export answers by the bytes of its engine's output, however they arrive. -/

namespace EngineClient.Session

/-- Phases that differ at most in how the rest of the output arrives. -/
inductive Phase.Alike : Phase → Phase → Prop where
  | idle : Alike .idle .idle
  | streaming {left right : Decoder} (alike : Decoder.Alike left right) :
    Alike (.streaming left) (.streaming right)
  | leaving : Alike .leaving .leaving
  | completed : Alike .completed .completed
  | cancelled : Alike .cancelled .cancelled
  | failed (kind : ErrorKind) (reason : String) : Alike (.failed kind reason) (.failed kind reason)

/-- A session with another output of its engine, and in another phase. -/
def recut (session : Session) (output : List OutputEvent) (phase : Phase) : Session :=
  { session with engine := { session.engine with output }, phase }

/-- Sessions that differ at most in how the output of their engines arrives. -/
inductive Alike (left right : List OutputEvent) : Session → Session → Prop where
  | intro (session : Session) {one other : Phase} (phases : Phase.Alike one other) :
    Alike left right (session.recut left one) (session.recut right other)

/-- Attempts that answer the same, and leave sessions that are alike. -/
inductive SameAttempt {α : Type} (left right : List OutputEvent) :
    Attempt α → Attempt α → Prop where
  | intro (answer : Except Error α) {one other : Session} (alike : Alike left right one other) :
    SameAttempt left right (.answered answer one) (.answered answer other)

section

variable {left right : List OutputEvent}

/-- Sessions that are alike export in the same encoding. -/
theorem Alike.encoding {one other : Session} (alike : Alike left right one other) :
    one.request.encoding = other.request.encoding := by
  cases alike
  rfl

/-- The end of the engine means the same for both sessions. -/
theorem finish_alike {one other : Session} (alike : Alike left right one other) :
    one.finish.1 = other.finish.1 ∧ Alike left right one.finish.2 other.finish.2 := by
  -- How an engine ended is told by its exit and what it wrote beside the output, which both share.
  cases alike with
  | @intro session first second phases =>
    have same : (session.recut left first).settle = (session.recut right second).settle := rfl
    unfold finish
    rw [same]
    cases (session.recut right second).settle with
    | ok nothing => exact ⟨rfl, .intro session .completed⟩
    | error error => exact ⟨rfl, .intro session (.failed error.kind error.display)⟩

/-- Sessions that are alike and read from readers that are alike read the same. -/
theorem readFrom_alike {α : Type} {read : Decoder → Decoder.Answer α} {count : α → UInt64}
    (respects : Decoder.Respects read) (session : Session) {one other : Phase}
    (phases : Phase.Alike one other) {first second : Decoder} (alike : Decoder.Alike first second) :
    SameAttempt left right ((session.recut left one).readFrom read count none first)
      ((session.recut right other).readFrom read count none second) := by
  -- Without a limit the time that reading takes does not matter, only what it answers.
  obtain ⟨answer, firstRest, secondRest, firstRan, secondRan, same⟩ := respects first second alike
  simp only [readFrom, firstRan, secondRan, inTime, if_true]
  rcases answer with error | (_ | item)
  · -- What terminating the engine answers does not hang on its output.
    exact .intro _ (.intro (session.called (.terminate session.grace))
      (.failed (explain error session.engine.terminated).kind
        (explain error session.engine.terminated).display))
  · simp only [leave, inTime, if_true]
    obtain ⟨answers, sessions⟩ := finish_alike (.intro (session.called .wait) phases)
    have answers' : ((session.recut left one).called .wait).finish.1
        = ((session.recut right other).called .wait).finish.1 := answers
    rw [answers']
    exact .intro _ sessions
  · exact .intro _ (.intro { session with delivered := session.delivered + count item }
      (.streaming same))

/-- Attempts in sessions that are alike answer the same. -/
theorem attempt_alike {α : Type} {read : Decoder → Decoder.Answer α} {count : α → UInt64}
    (respects : Decoder.Respects read) {bytes : Bytes}
    (leftHolds : Source.Holds { events := left } bytes)
    (rightHolds : Source.Holds { events := right } bytes) {one other : Session}
    (alike : Alike left right one other) :
    SameAttempt left right (one.attempt read count none) (other.attempt read count none) := by
  -- The outputs play a part only where one is opened or read on; otherwise the phase answers.
  cases alike with
  | intro session phases => cases phases with
    | idle =>
      cases spawned : session.engine.spawnError with
      | some error =>
        -- An engine that cannot be started brings no output, so the failure is the same.
        have unstarted (output : List OutputEvent) :
            (session.recut output .idle).attempt read count none = .answered (.error error)
              ((session.called (.spawn session.invocation.display)).recut output
                (.failed error.kind error.display)) :=
          attempt_unstarted rfl spawned
        rw [unstarted, unstarted]
        exact .intro _ (.intro _ (.failed error.kind error.display))
      | none =>
        -- A fresh reader is opened on each output, and both have the same bytes before them.
        have started (output : List OutputEvent) :
            (session.recut output .idle).attempt read count none =
              readFrom read count none
                (Decoder.ofSource session.request.encoding { events := output })
                ((session.called (.spawn session.invocation.display)).recut output
                  (.streaming (Decoder.ofSource session.request.encoding { events := output }))) :=
          attempt_started rfl spawned rfl
        rw [started, started]
        have decoders := Decoder.ofSource_alike session.request.encoding leftHolds rightHolds
        exact readFrom_alike respects _ (.streaming decoders) decoders
    -- Both readers have the same bytes before them and go on alike.
    | streaming decoders => exact readFrom_alike respects session (.streaming decoders) decoders
    | leaving => exact .intro _ (.intro session .leaving)
    | completed => exact .intro _ (.intro session .completed)
    | cancelled => exact .intro _ (.intro session .cancelled)
    | failed kind reason => exact .intro _ (.intro session (.failed kind reason))

/-- Sessions that are alike are called off with the same answer. -/
theorem cancel_alike {one other : Session} (alike : Alike left right one other) :
    one.cancel.1 = other.cancel.1 ∧ Alike left right one.cancel.2 other.cancel.2 := by
  -- What is still to be read is dropped unread, so both come to the same phase.
  cases alike with
  | intro session phases => cases phases with
    | idle => exact ⟨rfl, .intro session .cancelled⟩
    | streaming decoders =>
      exact ⟨rfl, .intro (session.called (.terminate session.grace)) .cancelled⟩
    | leaving => exact ⟨rfl, .intro session .cancelled⟩
    | completed => exact ⟨rfl, .intro session .completed⟩
    | cancelled => exact ⟨rfl, .intro session .cancelled⟩
    | failed kind reason => exact ⟨rfl, .intro session (.failed kind reason)⟩

/-- Attempts that answer the same make calls that reply the same. -/
theorem SameAttempt.outcome {α : Type} {wrap : Except Error α → Reply} {one other : Attempt α}
    (same : SameAttempt left right one other) :
    ∃ reply first second, one.outcome wrap = ⟨some reply, first⟩ ∧
      other.outcome wrap = ⟨some reply, second⟩ ∧ Alike left right first second := by
  cases same with
  | intro answer alike => exact ⟨wrap answer, _, _, rfl, rfl, alike⟩

/-- Whether a call waits as long as it takes, and keeps the export. -/
def Call.IsPatient : Call → Prop
  | .record | .batch | .cancel => True
  | .collect _ | .drop => False

/-- Sessions that are alike reply the same to a call. -/
theorem make_alike [Platform] {bytes : Bytes} (leftHolds : Source.Holds { events := left } bytes)
    (rightHolds : Source.Holds { events := right } bytes) {one other : Session}
    (alike : Alike left right one other) {call : Call} (patient : call.IsPatient) :
    ∃ reply first second, one.make call = ⟨some reply, first⟩ ∧
      other.make call = ⟨some reply, second⟩ ∧ Alike left right first second := by
  -- Calls with a deadline are not patient, and of the others each answers alike.
  cases call with
  | record =>
    exact (attempt_alike Decoder.nextRecord_respects leftHolds rightHolds alike).outcome
  | batch =>
    have same : SameAttempt left right (one.attemptBatch none) (other.attemptBatch none) := by
      -- Both export in one encoding, so both turn the call down or both try.
      have encodings := alike.encoding
      cases encoding : one.request.encoding with
      | json =>
        rw [encoding] at encodings
        simp only [attemptBatch, encoding, ← encodings]
        exact .intro _ alike
      | arrow =>
        rw [attemptBatch_eq encoding, attemptBatch_eq (encodings ▸ encoding)]
        exact attempt_alike Decoder.nextBatch_respects leftHolds rightHolds alike
    exact same.outcome
  | cancel =>
    obtain ⟨answers, sessions⟩ := cancel_alike alike
    refine ⟨.cancelled one.cancel.1, one.cancel.2, other.cancel.2, rfl, ?_, sessions⟩
    rw [answers]
    rfl
  | collect bound => exact patient.elim
  | drop => exact patient.elim

/-- What can be seen of an export. -/
structure View where
  /-- The name of its phase. -/
  phase : String
  /-- Whether it is over. -/
  terminal : Bool
  /-- How many events were handed out. -/
  delivered : UInt64
  /-- The number of the engine's process while its output is being read. -/
  pid? : Option Nat
  /-- The calls made on the engine. -/
  calls : List EngineCall
deriving DecidableEq, Repr

/-- Looks at an export. -/
def view (session : Session) : View :=
  { phase := session.phase.name, terminal := session.phase.isTerminal
    delivered := session.delivered, pid? := session.pid?, calls := session.calls }

/-- Sessions that are alike look the same. -/
theorem Alike.view {one other : Session} (alike : Alike left right one other) :
    one.view = other.view := by
  cases alike with
  | intro session phases => cases phases <;> rfl

/-- Sessions that are alike reply the same to all calls, to each of them, and stay alike. -/
theorem run_alike [Platform] {bytes : Bytes} (leftHolds : Source.Holds { events := left } bytes)
    (rightHolds : Source.Holds { events := right } bytes) {one other : Session}
    (alike : Alike left right one other) {calls : List Call}
    (patient : ∀ call ∈ calls, call.IsPatient) :
    (one.run calls).1 = (other.run calls).1 ∧ (one.run calls).1.length = calls.length ∧
      Alike left right (one.run calls).2 (other.run calls).2 := by
  -- Every call is answered, so neither run stops before the other.
  induction calls generalizing one other with
  | nil => exact ⟨rfl, rfl, alike⟩
  | cons call rest ih =>
    have first : call.IsPatient := patient call List.mem_cons_self
    have held : call ≠ .drop := by
      intro drop
      rw [drop] at first
      exact first
    -- The first call leaves sessions that are alike, from where the others go on.
    obtain ⟨reply, left, right, oneMade, otherMade, same⟩ :=
      make_alike leftHolds rightHolds alike first
    obtain ⟨replies, count, ends⟩ :=
      ih same fun other member => patient other (List.mem_cons_of_mem _ member)
    simp only [run, oneMade, otherMade, if_neg held]
    exact ⟨by rw [replies], by rw [List.length_cons, List.length_cons, count], ends⟩

end

section

variable [Platform]

/-- Outputs that no calls tell apart: a reader of either encoding replies the same to all calls for
events and batches, and an export of any engine with them replies and looks the same after all calls
for events and batches and to call it off. -/
def Indistinct (one other : List OutputEvent) : Prop :=
  (∀ (encoding : Encoding) (calls : List Decoder.Call), ∃ replies,
    (Decoder.ofSource encoding { events := one }).replies calls = some replies ∧
      (Decoder.ofSource encoding { events := other }).replies calls = some replies) ∧
  (∀ (engine : Engine) (invocation : Invocation) (request : ExportRequest) (grace : Nat)
    (calls : List Call), (∀ call ∈ calls, call.IsPatient) →
    let left : Session := { engine := { engine with output := one }, invocation, request, grace }
    let right : Session := { engine := { engine with output := other }, invocation, request, grace }
    (left.run calls).1 = (right.run calls).1 ∧ (left.run calls).1.length = calls.length ∧
      (left.run calls).2.view = (right.run calls).2.view)

/-- No calls tell apart outputs that bring the same bytes, wherever these are cut and however long
they take. -/
theorem indistinct_of_holds {one other : List OutputEvent} {bytes : Bytes}
    (oneHolds : Source.Holds { events := one } bytes)
    (otherHolds : Source.Holds { events := other } bytes) : Indistinct one other := by
  -- Readers are compared as such, and sessions by the readers that they open.
  refine ⟨fun encoding calls => ?_, fun engine invocation request grace calls patient => ?_⟩
  · exact Decoder.replies_alike (Decoder.ofSource_alike encoding oneHolds otherHolds) calls
  · intro left right
    have fresh : Alike one other left right :=
      .intro { engine, invocation, request, grace } .idle
    obtain ⟨replies, count, ends⟩ := run_alike oneHolds otherHolds fresh patient
    exact ⟨replies, count, ends.view⟩

end

open scoped Platform in
/-- A line with a character of two bytes may be cut inside of it. -/
theorem indistinct_halves :
    Source.Holds { events := [.data [34, 195, 164, 34, 10]] } [34, 195, 164, 34, 10] ∧
      Source.Holds { events := [.data [34, 195], .pause 7, .data [], .data [164, 34, 10]] }
        [34, 195, 164, 34, 10] ∧
      Indistinct [.data [34, 195, 164, 34, 10]]
        [.data [34, 195], .pause 7, .data [], .data [164, 34, 10]] := by
  have whole : Source.Holds { events := [.data [34, 195, 164, 34, 10]] } [34, 195, 164, 34, 10] :=
    ⟨by simp [OutputEvent.IsQuiet], rfl⟩
  -- The two halves of a letter make up the same bytes, with a pause between them.
  have halves : Source.Holds
      { events := [.data [34, 195], .pause 7, .data [], .data [164, 34, 10]] }
      [34, 195, 164, 34, 10] :=
    ⟨by simp [OutputEvent.IsQuiet], rfl⟩
  exact ⟨whole, halves, indistinct_of_holds whole halves⟩

end EngineClient.Session
