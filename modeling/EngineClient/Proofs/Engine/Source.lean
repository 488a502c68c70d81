import EngineClient.Engine.Source
import EngineClient.Proofs.Answers

/-! What reading brings of an output is settled by its bytes, however they arrive, and it brings
something unless the output hangs. -/

namespace EngineClient

/-- Whether an event brings bytes or lets time pass, and does no more. -/
def OutputEvent.IsQuiet : OutputEvent → Prop
  | .data _ | .pause _ => True
  | .failure _ | .hang => False

/-- The bytes that an event brings. -/
def OutputEvent.bytes : OutputEvent → Bytes
  | .data bytes => bytes
  | _ => []

namespace Source

/-- A source that brings some bytes and then ends, with no failure on the way. -/
structure Holds (source : Source) (bytes : Bytes) : Prop where
  /-- Nothing fails and nothing hangs. -/
  quiet : ∀ event ∈ source.events, event.IsQuiet
  /-- What has arrived and what is still to come make up the bytes. -/
  whole : source.ready ++ source.events.flatMap OutputEvent.bytes = bytes

/-- Bytes that arrive at once are held. -/
theorem holds_data (bytes : Bytes) : Source.Holds { events := [.data bytes] } bytes :=
  ⟨by simp [OutputEvent.IsQuiet], by simp [OutputEvent.bytes]⟩

/-- Waiting for bytes brings the first of all that are to come, and leaves the others. -/
theorem takeFrom_holds {count : Nat} {ready : Bytes} {waited : Nat} {events : List OutputEvent}
    (quiet : ∀ event ∈ events, event.IsQuiet) :
    ∃ rest, takeFrom count ready waited events
        = some (.ok ((ready ++ events.flatMap OutputEvent.bytes).take count), rest)
      ∧ rest.Holds ((ready ++ events.flatMap OutputEvent.bytes).drop count) := by
  -- Each event either completes the bytes or is passed on the way to the end.
  induction events generalizing ready waited with
  | nil =>
    simp only [takeFrom, List.flatMap_nil, List.append_nil]
    exact ⟨_, rfl, ⟨by simp, by simp⟩⟩
  | cons event events ih =>
    have others : ∀ event ∈ events, event.IsQuiet := fun other member =>
      quiet other (List.mem_cons_of_mem _ member)
    cases event with
    | data chunk =>
      simp only [takeFrom, List.flatMap_cons, OutputEvent.bytes, ← List.append_assoc]
      split
      · -- The bytes that are wanted have all arrived, so later events do not matter.
        rename_i enough
        refine ⟨_, by rw [List.take_append_of_le_length enough], ⟨others, ?_⟩⟩
        rw [List.drop_append_of_le_length enough]
      · exact ih others
    -- Time that passes brings no bytes, and whatever else could happen is ruled out.
    | pause milliseconds => exact ih others
    | failure cause => exact (quiet _ (List.mem_cons_self ..)).elim
    | hang => exact (quiet _ (List.mem_cons_self ..)).elim

/-- Taking bytes brings the first ones, or all where there are fewer, and leaves the others. -/
theorem take_holds {source : Source} {bytes : Bytes} (holds : source.Holds bytes) (count : Nat) :
    ∃ rest, source.take count = some (.ok (bytes.take count), rest)
      ∧ rest.Holds (bytes.drop count) := by
  obtain ⟨quiet, rfl⟩ := holds
  simp only [Source.take]
  split
  · -- What has arrived is enough.
    rename_i arrived
    have enough : count ≤ source.ready.length := by
      rw [List.length_take] at arrived
      omega
    refine ⟨{ source with ready := source.ready.drop count }, ?_, ⟨quiet, ?_⟩⟩
    · -- What has arrived stands in front of what is still to come.
      rw [List.take_append_of_le_length enough]
    · rw [List.drop_append_of_le_length enough]
  · exact takeFrom_holds quiet

/-- The first line of some bytes without its newline, and what is behind it. -/
def firstLine? (bytes : Bytes) : Option (Bytes × Bytes) :=
  match splitLine bytes with
  | some found => some found
  | none => if bytes.isEmpty then none else some (bytes, [])

/-- A newline is found at the same place when more bytes follow. -/
theorem splitLine_append {bytes line behind : Bytes} (more : Bytes)
    (split : splitLine bytes = some (line, behind)) :
    splitLine (bytes ++ more) = some (line, behind ++ more) := by
  -- The newline is either the first byte or lies in the rest.
  induction bytes generalizing line with
  | nil => simp [splitLine] at split
  | cons byte rest ih =>
    -- The first byte is looked at in the same way, whatever follows.
    rw [List.cons_append, splitLine]
    simp only [splitLine] at split
    split at split
    · rename_i newline
      simp only [Option.some.injEq, Prod.mk.injEq] at split
      obtain ⟨rfl, rfl⟩ := split
      rw [if_pos newline]
    · rename_i other
      rw [if_neg other]
      split at split
      · rename_i found
        simp only [Option.some.injEq, Prod.mk.injEq] at split
        obtain ⟨rfl, rfl⟩ := split
        rw [ih found]
      · simp at split

/-- Bytes without a newline are a part of the line that is completed behind them. -/
theorem splitLine_append_none {bytes more : Bytes} (whole : splitLine bytes = none) :
    splitLine (bytes ++ more)
      = (splitLine more).map fun (line, behind) => (bytes ++ line, behind) := by
  -- None of the bytes is a newline, so the search goes through all of them into what follows.
  induction bytes with
  | nil => simp only [List.nil_append, Option.map_id']
  | cons byte rest ih =>
    simp only [splitLine] at whole
    split at whole
    · simp at whole
    · rename_i other
      split at whole
      · simp at whole
      · rename_i absent
        rw [List.cons_append, splitLine, if_neg other, ih absent]
        cases splitLine more <;> rfl

/-- Waiting for a line brings the first line of all that is to come. -/
theorem lineFrom_holds {ready : Bytes} {waited : Nat} {events : List OutputEvent}
    (quiet : ∀ event ∈ events, event.IsQuiet) (unfinished : splitLine ready = none) :
    ∃ rest, lineFrom ready waited events
        = some (.ok ((firstLine? (ready ++ events.flatMap OutputEvent.bytes)).map Prod.fst), rest)
      ∧ rest.Holds
        (((firstLine? (ready ++ events.flatMap OutputEvent.bytes)).map Prod.snd).getD []) := by
  -- What has arrived holds no newline, so the line ends in a later event or with the output.
  induction events generalizing ready waited with
  | nil =>
    -- At the end of the output the last line is what has arrived, unless that is nothing.
    simp only [lineFrom, List.flatMap_nil, List.append_nil, firstLine?, unfinished]
    split
    · exact ⟨_, rfl, ⟨by simp, by simp⟩⟩
    · exact ⟨_, rfl, ⟨by simp, by simp⟩⟩
  | cons event events ih =>
    have others : ∀ event ∈ events, event.IsQuiet := fun other member =>
      quiet other (List.mem_cons_of_mem _ member)
    cases event with
    | data chunk =>
      simp only [lineFrom, List.flatMap_cons, OutputEvent.bytes, ← List.append_assoc]
      split
      -- The chunk alone is searched, and what it shows is true of all that has arrived.
      · rename_i line behind found
        have split : splitLine (ready ++ chunk) = some (ready ++ line, behind) := by
          rw [splitLine_append_none unfinished, found]
          rfl
        simp only [firstLine?, splitLine_append _ split]
        exact ⟨_, rfl, ⟨others, rfl⟩⟩
      · rename_i absent
        have split : splitLine (ready ++ chunk) = none := by
          rw [splitLine_append_none unfinished, absent]
          rfl
        exact ih others split
    | pause milliseconds => exact ih others unfinished
    | failure cause => exact (quiet _ (List.mem_cons_self ..)).elim
    | hang => exact (quiet _ (List.mem_cons_self ..)).elim

/-- Reading a line brings the first one, if there is one, and leaves what is behind it. -/
theorem line_holds {source : Source} {bytes : Bytes} (holds : source.Holds bytes) :
    ∃ rest, source.line = some (.ok ((firstLine? bytes).map Prod.fst), rest)
      ∧ rest.Holds (((firstLine? bytes).map Prod.snd).getD []) := by
  obtain ⟨quiet, rfl⟩ := holds
  simp only [Source.line]
  split
  -- A line that has arrived is the first of all, whatever follows it.
  · rename_i line behind found
    simp only [firstLine?, splitLine_append _ found]
    exact ⟨_, rfl, ⟨quiet, rfl⟩⟩
  -- Without a whole line at hand, more has to arrive.
  · rename_i absent
    exact lineFrom_holds quiet absent

section

variable {α : Type} {wait : Bytes → Nat → List OutputEvent → Answer α}
  {Settles : Bytes → α → Bytes → Prop} {ready : Bytes} {waited : Nat} {events : List OutputEvent}

/-- Events before a value are quiet if those behind it are. -/
theorem Waits.quiet (waits : Waits wait Settles) {value : α} {rest : Source}
    (read : wait ready waited events = some (.ok value, rest))
    (quiet : ∀ event ∈ rest.events, event.IsQuiet) : ∀ event ∈ events, event.IsQuiet := by
  -- An event that is not quiet would have been answered by a failure, or not at all.
  induction events generalizing ready waited with
  | nil => exact List.forall_mem_nil _
  | cons event events ih =>
    cases event with
    | data chunk =>
      rcases waits.data ready chunk waited events with ⟨_, _, _, settled⟩ | onward
      · cases settled.symm.trans read
        exact List.forall_mem_cons.mpr ⟨trivial, quiet⟩
      · exact List.forall_mem_cons.mpr ⟨trivial, ih (onward ▸ read)⟩
    | pause milliseconds => exact List.forall_mem_cons.mpr ⟨trivial, ih (waits.pause .. ▸ read)⟩
    | failure cause => cases (waits.failure ..).symm.trans read
    | hang => cases (waits.hang ..).symm.trans read

/-- A source that never comes to hang. -/
def IsLive (source : Source) : Prop :=
  .hang ∉ source.events

/-- Waiting comes to an answer where nothing hangs. -/
theorem Waits.answered (waits : Waits wait Settles) (live : .hang ∉ events) :
    Answered IsLive (fun _ => True) (wait ready waited events) := by
  -- Each event either settles the value or is passed on the way to the end.
  induction events generalizing ready waited with
  | nil =>
    obtain ⟨_, _, _, ended⟩ := waits.ended ready waited
    exact ended ▸ .ok live
  | cons event events ih =>
    have others : .hang ∉ events := fun member => live (List.mem_cons_of_mem _ member)
    cases event with
    | data chunk =>
      rcases waits.data ready chunk waited events with ⟨_, _, _, settled⟩ | onward
      · exact settled ▸ .ok others
      · exact onward ▸ ih others
    | pause milliseconds => exact waits.pause .. ▸ ih others
    | failure cause => exact waits.failure .. ▸ .error trivial others
    | hang => exact (live List.mem_cons_self).elim

end

/-- A source is quiet if it is so behind a line that was read. -/
theorem line_quiet {source rest : Source} {line : Option Bytes}
    (read : source.line = some (.ok line, rest)) (quiet : ∀ event ∈ rest.events, event.IsQuiet) :
    ∀ event ∈ source.events, event.IsQuiet := by
  unfold Source.line at read
  -- A line that has arrived already leaves all events to come.
  split at read
  · cases read
    exact quiet
  · exact lineFrom_waits.quiet read quiet

/-- Where no line is left, nothing is to happen any more. -/
theorem line_none {source rest : Source} (read : source.line = some (.ok none, rest)) :
    rest.events = [] := by
  -- A wait that brings no line has passed all events.
  have passed {ready : Bytes} {waited : Nat} {events : List OutputEvent}
      (ran : lineFrom ready waited events = some (.ok none, rest)) : rest.events = [] := by
    induction events generalizing ready waited with
    | nil =>
      simp only [lineFrom, Option.some.injEq, Prod.mk.injEq] at ran
      rw [← ran.2]
    | cons event events ih =>
      cases event with
      -- A chunk with a newline would have brought a line.
      | data chunk =>
        simp only [lineFrom] at ran
        split at ran
        · cases ran
        · exact ih ran
      | pause milliseconds => exact ih ran
      | failure cause => cases ran
      | hang => cases ran
  unfold Source.line at read
  split at read
  · cases read
  · exact passed read

/-- Taking bytes comes to an answer where nothing hangs. -/
theorem take_answered {source : Source} (live : source.IsLive) (count : Nat) :
    Answered IsLive (fun _ => True) (source.take count) := by
  simp only [Source.take]
  -- What has arrived is answered at once.
  split
  · exact .ok live
  · exact (takeFrom_waits count).answered live

/-- Reading a line comes to an answer where nothing hangs. -/
theorem line_answered {source : Source} (live : source.IsLive) :
    Answered IsLive (fun _ => True) source.line := by
  unfold Source.line
  split
  · exact .ok live
  · exact lineFrom_waits.answered live

end Source

/-- A failure to read an output or to make something of it, which tells nothing else of the
engine. -/
structure Error.IsOfOutput (error : Error) : Prop where
  kind : error.kind = .io ∨ error.kind = .protocol
  bare : error.stderr = none

/-- A failed read is a failure of output. -/
theorem Error.isOfOutput_ofRead (cause : String) : (Error.ofRead cause).IsOfOutput :=
  ⟨.inl rfl, rfl⟩

/-- A unit that breaks its format is a failure of output. -/
theorem Error.isOfOutput_ofRaw (message : String) (raw : Bytes) :
    (Error.ofRaw message raw).IsOfOutput :=
  ⟨.inr rfl, rfl⟩

end EngineClient
