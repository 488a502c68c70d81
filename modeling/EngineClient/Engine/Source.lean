import EngineClient.Engine.Script

/-! Reading an engine's output: bytes on demand, at the cost of waiting for them. -/

namespace EngineClient

/-- The part of an output that was not read yet. -/
structure Source where
  /-- Bytes that have arrived. -/
  ready : Bytes := []
  /-- What is still to happen. -/
  events : List OutputEvent
  /-- How many milliseconds were spent waiting so far. -/
  waited : Nat := 0
deriving DecidableEq, Repr

namespace Source

/-- What reading brings: a value or the cause of a failed read, or nothing where it never ends. -/
abbrev Answer (α : Type) := Option (Except String α × Source)

/-- How many bytes an event brings. -/
def eventSize : OutputEvent → Nat
  | .data bytes => bytes.length
  | _ => 0

/-- The number of bytes that some events bring. -/
def eventsSize : List OutputEvent → Nat
  | [] => 0
  | event :: rest => eventSize event + eventsSize rest

/-- The number of bytes that are still to be read. -/
def size (source : Source) : Nat :=
  source.ready.length + eventsSize source.events

/-- Waits until `count` bytes have arrived, of which `ready` are there, or the output ends. -/
def takeFrom (count : Nat) (ready : Bytes) (waited : Nat) : List OutputEvent → Answer Bytes
  | [] => some (.ok (ready.take count), ⟨ready.drop count, [], waited⟩)
  | .data bytes :: rest =>
    let ready := ready ++ bytes
    if count ≤ ready.length then some (.ok (ready.take count), ⟨ready.drop count, rest, waited⟩)
    else takeFrom count ready waited rest
  | .pause milliseconds :: rest => takeFrom count ready (waited + milliseconds) rest
  -- What had arrived before the failure is lost.
  | .failure cause :: rest => some (.error cause, ⟨[], rest, waited⟩)
  | .hang :: _ => none

/-- Reads `count` bytes, or fewer where the output ends before. -/
def take (source : Source) (count : Nat) : Answer Bytes :=
  -- What has arrived is given out without a wait.
  let taken := source.ready.take count
  if taken.length = count then
    some (.ok taken, { source with ready := source.ready.drop count })
  else takeFrom count source.ready source.waited source.events

/-- The bytes before and behind the first newline. -/
def splitLine : Bytes → Option (Bytes × Bytes)
  | [] => none
  | byte :: rest =>
    if byte = 0xA then some ([], rest)
    else match splitLine rest with
      | some (line, behind) => some (byte :: line, behind)
      | none => none

/-- Waits until a line is complete, of which `ready` has arrived, or the output ends. -/
def lineFrom (ready : Bytes) (waited : Nat) : List OutputEvent → Answer (Option Bytes)
  -- Bytes without a newline at the end are a line, too.
  | [] => some (.ok (if ready.isEmpty then none else some ready), ⟨[], [], waited⟩)
  | .data bytes :: rest =>
    match splitLine bytes with
    | some (line, behind) => some (.ok (some (ready ++ line)), ⟨behind, rest, waited⟩)
    | none => lineFrom (ready ++ bytes) waited rest
  | .pause milliseconds :: rest => lineFrom ready (waited + milliseconds) rest
  -- What had arrived before the failure is lost.
  | .failure cause :: rest => some (.error cause, ⟨[], rest, waited⟩)
  | .hang :: _ => none

/-- Reads a line without its newline, the last one also without one, or nothing at the end. -/
def line (source : Source) : Answer (Option Bytes) :=
  match splitLine source.ready with
  | some (line, behind) => some (.ok (some line), { source with ready := behind })
  | none => lineFrom source.ready source.waited source.events

/-- The two sides of a newline and the newline make up the whole. -/
theorem splitLine_length {bytes line behind : Bytes} (split : splitLine bytes = some (line, behind)) :
    line.length + behind.length + 1 = bytes.length := by
  -- The newline is either the first byte or lies in the rest.
  induction bytes generalizing line with
  | nil => simp [splitLine] at split
  | cons byte rest ih =>
    simp only [splitLine] at split
    split at split
    · simp only [Option.some.injEq, Prod.mk.injEq] at split
      obtain ⟨rfl, rfl⟩ := split
      simp
    · split at split
      · rename_i found
        simp only [Option.some.injEq, Prod.mk.injEq] at split
        obtain ⟨rfl, rfl⟩ := split
        have := ih found
        simp only [List.length_cons]
        omega
      · simp at split

/-- A way of waiting for a value: the bytes that have arrived settle it and leave some of them behind,
with a chunk or at the end of the output, and before that more is waited for. -/
structure Waits {α : Type} (wait : Bytes → Nat → List OutputEvent → Answer α)
    (Settles : Bytes → α → Bytes → Prop) : Prop where
  ended (ready : Bytes) (waited : Nat) : ∃ value behind, Settles ready value behind ∧
    wait ready waited [] = some (.ok value, ⟨behind, [], waited⟩)
  data (ready chunk : Bytes) (waited : Nat) (events : List OutputEvent) :
    (∃ value behind, Settles (ready ++ chunk) value behind ∧
      wait ready waited (.data chunk :: events) = some (.ok value, ⟨behind, events, waited⟩)) ∨
    wait ready waited (.data chunk :: events) = wait (ready ++ chunk) waited events
  pause (ready : Bytes) (waited milliseconds : Nat) (events : List OutputEvent) :
    wait ready waited (.pause milliseconds :: events) = wait ready (waited + milliseconds) events
  failure (ready : Bytes) (waited : Nat) (cause : String) (events : List OutputEvent) :
    wait ready waited (.failure cause :: events) = some (.error cause, ⟨[], events, waited⟩)
  hang (ready : Bytes) (waited : Nat) (events : List OutputEvent) :
    wait ready waited (.hang :: events) = none

/-- What a value is settled by are all bytes that are not left to come. -/
theorem Waits.arrived {α : Type} {wait : Bytes → Nat → List OutputEvent → Answer α}
    {Settles : Bytes → α → Bytes → Prop} (waits : Waits wait Settles) {ready : Bytes} {waited : Nat}
    {events : List OutputEvent} {value : α} {rest : Source}
    (read : wait ready waited events = some (.ok value, rest)) :
    ∃ arrived, Settles arrived value rest.ready ∧
      arrived.length + eventsSize rest.events = ready.length + eventsSize events := by
  -- Each event either settles the value or is passed on the way to the end.
  induction events generalizing ready waited with
  | nil =>
    obtain ⟨_, _, settles, ended⟩ := waits.ended ready waited
    cases ended.symm.trans read
    exact ⟨ready, settles, rfl⟩
  | cons event events ih =>
    cases event with
    | data chunk =>
      rcases waits.data ready chunk waited events with ⟨_, _, settles, settled⟩ | onward
      · cases settled.symm.trans read
        exact ⟨ready ++ chunk, settles, by simp [eventsSize, eventSize, Nat.add_assoc]⟩
      · obtain ⟨arrived, settles, size⟩ := ih (onward ▸ read)
        exact ⟨arrived, settles, by simpa [eventsSize, eventSize, Nat.add_assoc] using size⟩
    | pause milliseconds =>
      obtain ⟨arrived, settles, size⟩ := ih (waits.pause .. ▸ read)
      exact ⟨arrived, settles, by simpa [eventsSize, eventSize] using size⟩
    | failure cause => cases (waits.failure ..).symm.trans read
    | hang => cases (waits.hang ..).symm.trans read

/-- A line is waited for; it takes at least one of the bytes that have arrived. -/
theorem lineFrom_waits : Waits lineFrom fun arrived line behind =>
    ∀ held, line = some held → behind.length < arrived.length where
  ended ready waited := by
    -- At the end of the output there is a line if anything has arrived.
    refine ⟨_, _, fun held brought => ?_, rfl⟩
    split at brought
    · cases brought
    · rename_i present
      exact List.length_pos_iff.mpr (by simpa using present)
  data ready chunk waited events := by
    simp only [lineFrom]
    split
    · rename_i line behind found
      refine .inl ⟨_, _, fun _ _ => ?_, rfl⟩
      -- The chunk loses the newline at least.
      have length := splitLine_length found
      rw [List.length_append]
      omega
    · exact .inr rfl
  pause _ _ _ _ := rfl
  failure _ _ _ _ := rfl
  hang _ _ _ := rfl

/-- Reading a line leaves fewer bytes to be read. -/
theorem line_size {source rest : Source} {line : Bytes}
    (read : source.line = some (.ok (some line), rest)) : rest.size < source.size := by
  simp only [Source.line] at read
  -- A line that has arrived is taken off what is ready, and its newline too.
  split at read
  · rename_i found
    simp only [Option.some.injEq, Prod.mk.injEq] at read
    obtain ⟨_, rfl⟩ := read
    have := splitLine_length found
    simp only [size]
    omega
  · -- The line was settled by the bytes that had arrived by then.
    obtain ⟨arrived, shorter, size⟩ := lineFrom_waits.arrived read
    have fewer := shorter line rfl
    simp only [Source.size]
    omega

/-- Bytes are waited for; they are the first of those that have arrived. -/
theorem takeFrom_waits (count : Nat) : Waits (takeFrom count) fun arrived bytes behind =>
    bytes ++ behind = arrived where
  ended ready waited := ⟨_, _, List.take_append_drop count ready, rfl⟩
  data ready chunk waited events := by
    simp only [takeFrom]
    split
    · exact .inl ⟨_, _, List.take_append_drop count (ready ++ chunk), rfl⟩
    · exact .inr rfl
  pause _ _ _ _ := rfl
  failure _ _ _ _ := rfl
  hang _ _ _ := rfl

/-- What is taken is missing from what is left. -/
theorem take_size {source rest : Source} {count : Nat} {bytes : Bytes}
    (read : source.take count = some (.ok bytes, rest)) :
    rest.size + bytes.length = source.size := by
  simp only [Source.take] at read
  -- What has arrived is enough, or the rest is waited for.
  split at read
  · simp only [Option.some.injEq, Prod.mk.injEq, Except.ok.injEq] at read
    obtain ⟨rfl, rfl⟩ := read
    simp only [size, List.length_drop, List.length_take]
    omega
  · obtain ⟨arrived, whole, size⟩ := (takeFrom_waits count).arrived read
    rw [← whole, List.length_append] at size
    simp only [Source.size]
    omega

/-- Reads to the end, the chunks so far in reverse in `read`. -/
def drainFrom (read : List Bytes) (waited : Nat) : List OutputEvent → Answer Bytes
  | [] => some (.ok read.reverse.flatten, ⟨[], [], waited⟩)
  | .data bytes :: rest => drainFrom (bytes :: read) waited rest
  | .pause milliseconds :: rest => drainFrom read (waited + milliseconds) rest
  | .failure cause :: rest => some (.error cause, ⟨[], rest, waited⟩)
  | .hang :: _ => none

/-- Reads all that is left. -/
def drain (source : Source) : Answer Bytes :=
  drainFrom [source.ready] source.waited source.events

end Source

end EngineClient
