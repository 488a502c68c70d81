import EngineClient.Proofs.Decoder

/-! Lines that are read to the end: their objects, up to the first line that holds none. -/

namespace EngineClient

/-- What some items come to: the values before the first failure, and the failure if there is one. -/
inductive ComesTo {ε α : Type} : List (Except ε α) → List α → Except ε Unit → Prop where
  /-- There is no item any more. -/
  | ended : ComesTo [] [] (.ok ())
  /-- An item is a failure, and those behind it do not matter. -/
  | failed (error : ε) (others : List (Except ε α)) :
    ComesTo (.error error :: others) [] (.error error)
  /-- A value comes before the others. -/
  | value {value : α} {items : List (Except ε α)} {values : List α} {last : Except ε Unit}
    (behind : ComesTo items values last) : ComesTo (.ok value :: items) (value :: values) last

namespace ComesTo

variable {ε α : Type}

/-- All items come to something. -/
theorem exists_of (items : List (Except ε α)) : ∃ values last, ComesTo items values last := by
  induction items with
  | nil => exact ⟨[], _, .ended⟩
  | cons item items ih =>
    -- Items behind the first failure do not matter.
    cases item with
    | error error => exact ⟨[], _, .failed error items⟩
    | ok value =>
      obtain ⟨values, last, behind⟩ := ih
      exact ⟨value :: values, last, .value behind⟩

/-- Items come to their end exactly if all of them are values. -/
theorem ok_iff {items : List (Except ε α)} {values : List α} :
    ComesTo items values (.ok ()) ↔ items = values.map .ok := by
  constructor
  · intro comes
    -- No item is a failure, so the induction goes to the end of the items.
    generalize whole : Except.ok () = last at comes
    induction comes with
    | ended => rfl
    | failed => cases whole
    | value behind ih => rw [ih whole, List.map_cons]
  · rintro rfl
    induction values with
    | nil => exact .ended
    | cons value values ih => exact .value ih

end ComesTo

namespace Json.Lines

/-- The items of all lines that are not blank, the first line with a number. -/
def itemsFrom (place : Nat) (bytes : Bytes) : List (Except Error Record) :=
  (unitsFrom place bytes).map fun line => item line.2 line.1

/-- All lines that are not blank hold an object, and these are the objects in order. -/
def Spells (bytes : Bytes) (objects : List Fields) : Prop :=
  List.Forall₂ (fun unit fields => parse unit.1 = .ok (.object fields)) (unitsFrom 1 bytes) objects

/-- The item of a line is an event exactly if the line holds its fields. -/
theorem item_eq_ok_iff {place : Nat} {unit : Bytes} {record : Record} :
    item place unit = .ok record ↔
      parse unit = .ok (.object record.data) ∧ record.schema = none := by
  obtain ⟨schema, data⟩ := record
  unfold item
  split
  · rename_i fields parsed
    simp [parsed, eq_comm, and_comm]
  · -- Any other document is no event.
    rename_i document other parsed
    simp only [reduceCtorEq, parsed, Except.ok.injEq, false_iff, not_and]
    exact fun same => (other _ same).elim
  · rename_i fault parsed
    simp [parsed]

/-- The items are events exactly if the lines hold their fields. -/
theorem itemsFrom_eq_iff {bytes : Bytes} {objects : List Fields} :
    itemsFrom 1 bytes = (objects.map fun fields => ⟨none, fields⟩).map .ok ↔
      Spells bytes objects := by
  rw [itemsFrom, Spells, List.map_map, ← List.forall₂_eq_eq_eq, List.forall₂_map_left_iff,
    List.forall₂_map_right_iff]
  simp only [Function.comp_apply, item_eq_ok_iff, and_true]

/-- A reader brings what the items of its lines come to. -/
theorem exhausts_of_comesTo {lines : Lines} {bytes : Bytes} {records : List Record}
    {last : Except Error Unit} (holds : lines.source.Holds bytes)
    (comes : ComesTo (itemsFrom (lines.count + 1) bytes) records last) :
    ∃ rest, Exhausts next lines records last rest := by
  generalize listed : itemsFrom (lines.count + 1) bytes = items at comes
  -- The induction is on the items, of which each reading takes the first.
  induction comes generalizing lines bytes with
  | ended =>
    -- No item is left, so the reader is at the end.
    have step := next_holds holds
    rw [List.map_eq_nil_iff.mp listed] at step
    obtain ⟨rest, answered, _⟩ := step
    exact ⟨rest, .ended answered⟩
  | failed error others =>
    -- The line is answered as its item, which is the failure.
    obtain ⟨⟨unit, place⟩, units, split, first, _⟩ := List.map_eq_cons_iff.mp listed
    have step := next_holds holds
    rw [split] at step
    obtain ⟨rest, _, answered, _⟩ := step
    simp only at first
    rw [first] at answered
    exact ⟨rest, .failed answered⟩
  | value behind ih =>
    obtain ⟨⟨unit, place⟩, units, split, first, others⟩ := List.map_eq_cons_iff.mp listed
    have step := next_holds holds
    rw [split] at step
    obtain ⟨rest, left, answered, held, same⟩ := step
    simp only at first
    rw [first] at answered
    -- The other items are those of the lines behind the first.
    obtain ⟨after, exhausts⟩ := ih held (by rw [itemsFrom, same, others])
    exact ⟨after, .item answered exhausts⟩

/-- A source is quiet if it is so behind an event that was read, or behind its end. -/
theorem next_quiet {lines rest : Lines} {answer : Option Record}
    (ran : lines.next = some (.ok answer, rest))
    (quiet : ∀ event ∈ rest.source.events, event.IsQuiet) :
    ∀ event ∈ lines.source.events, event.IsQuiet := by
  fun_induction next lines with
  | case1 => cases ran
  | case2 => cases ran
  | case3 lines source read =>
    cases ran
    exact Source.line_quiet read quiet
  -- Both the blank line and what is read behind it came of quiet events.
  | case4 lines line source read counted unit blank ih => exact Source.line_quiet read (ih ran)
  | case5 lines line source read counted unit blank =>
    simp only [Option.some.injEq, Prod.mk.injEq] at ran
    obtain ⟨_, rfl⟩ := ran
    exact Source.line_quiet read quiet

/-- Nothing is to happen any more behind the end. -/
theorem next_none {lines rest : Lines} (ran : lines.next = some (.ok none, rest)) :
    rest.source.events = [] := by
  fun_induction next lines with
  | case1 => cases ran
  | case2 => cases ran
  | case3 lines source read =>
    cases ran
    exact Source.line_none read
  | case4 lines line source read counted unit blank ih => exact ih ran
  | case5 lines line source read counted unit blank =>
    simp only [Option.some.injEq, Prod.mk.injEq] at ran
    obtain ⟨some, _⟩ := ran
    -- A line is an item, and so no end.
    obtain ⟨held, _, absurd⟩ := map_eq_ok_iff.mp some
    cases absurd

/-- An output that is read to its end is quiet. -/
theorem quiet_of_exhausts {lines rest : Lines} {records : List Record}
    (exhausts : Exhausts next lines records (.ok ()) rest) :
    ∀ event ∈ lines.source.events, event.IsQuiet := by
  -- Going backwards from the end, no event was read that is not quiet.
  generalize whole : Except.ok () = last at exhausts
  induction exhausts with
  | ended answered =>
    refine next_quiet answered ?_
    rw [next_none answered]
    exact List.forall_mem_nil _
  | failed => cases whole
  | item answered behind ih => exact next_quiet answered (ih whole)

/-- An output is read to its end exactly if it holds some bytes whose lines all hold objects. -/
theorem exhausts_ok_iff {source : Source} {objects : List Fields} :
    (∃ rest, Exhausts next { source } (objects.map fun fields => ⟨none, fields⟩) (.ok ()) rest) ↔
      ∃ bytes, source.Holds bytes ∧ Spells bytes objects := by
  constructor
  · rintro ⟨rest, exhausts⟩
    have holds : source.Holds (source.ready ++ source.events.flatMap OutputEvent.bytes) :=
      ⟨quiet_of_exhausts exhausts, rfl⟩
    -- What the lines come to is the one thing that reading brings.
    obtain ⟨records, last, comes⟩ := ComesTo.exists_of
      (itemsFrom 1 (source.ready ++ source.events.flatMap OutputEvent.bytes))
    have opened : Source.Holds (Lines.mk source 0).source _ := holds
    obtain ⟨after, other⟩ := exhausts_of_comesTo opened comes
    -- So all items were events, and these are the objects.
    obtain ⟨rfl, rfl, _⟩ := exhausts.unique other
    exact ⟨_, holds, itemsFrom_eq_iff.mp (ComesTo.ok_iff.mp comes)⟩
  · rintro ⟨bytes, holds, spells⟩
    exact exhausts_of_comesTo holds (ComesTo.ok_iff.mpr (itemsFrom_eq_iff.mpr spells))

/-- An event that was read is the item of some line. -/
theorem next_item {lines rest : Lines} {record : Record}
    (ran : lines.next = some (.ok (some record), rest)) :
    ∃ place unit, item place unit = .ok record := by
  fun_induction next lines with
  | case1 => cases ran
  | case2 => cases ran
  | case3 => cases ran
  -- A blank line is passed over, and the item is that of a later one.
  | case4 lines line source read counted unit blank ih => exact ih ran
  | case5 lines line source read counted unit blank =>
    simp only [Option.some.injEq, Prod.mk.injEq] at ran
    obtain ⟨held, found, same⟩ := map_eq_ok_iff.mp ran.1
    cases same
    exact ⟨_, _, found⟩

/-- An event that was read has no schema. -/
theorem next_schema {lines rest : Lines} {record : Record}
    (ran : lines.next = some (.ok (some record), rest)) : record.schema = none := by
  obtain ⟨place, unit, found⟩ := next_item ran
  exact (item_eq_ok_iff.mp found).2

/-- Events that were read to the end or to a failure are their fields. -/
theorem eq_map_of_exhausts {lines rest : Lines} {records : List Record} {last : Except Error Unit}
    (exhausts : Exhausts next lines records last rest) :
    records = (records.map Record.data).map fun fields => ⟨none, fields⟩ := by
  induction exhausts with
  | ended => rfl
  | failed => rfl
  | @item _ _ _ record _ _ answered behind ih =>
    -- The event has nothing but its fields.
    obtain ⟨schema, data⟩ := record
    obtain rfl : schema = none := next_schema answered
    rw [List.map_cons, List.map_cons, ← ih]

/-- A failure to read the next event is one of output. -/
theorem next_ofOutput {lines rest : Lines} {error : Error}
    (ran : lines.next = some (.error error, rest)) : error.IsOfOutput := by
  fun_induction next lines with
  | case1 => cases ran
  | case2 lines cause source read =>
    cases ran
    exact Error.isOfOutput_ofRead cause
  | case3 => cases ran
  -- The failure is met behind the blank line.
  | case4 lines line source read counted unit blank ih => exact ih ran
  | case5 lines line source read counted unit blank =>
    simp only [Option.some.injEq, Prod.mk.injEq] at ran
    -- The item is the failure, as it is no event.
    cases found : item counted.count unit with
    | error other =>
      obtain rfl : other = error := by simpa [found, Except.map] using ran.1
      exact item_ofOutput found
    | ok record => simp [found, Except.map] at ran

/-- A failure behind some events is one of output. -/
theorem ofOutput_of_exhausts {lines rest : Lines} {records : List Record} {error : Error}
    (exhausts : Exhausts next lines records (.error error) rest) : error.IsOfOutput := by
  generalize whole : Except.error error = last at exhausts
  -- The induction is on the items in front of the failure.
  induction exhausts with
  | ended => cases whole
  | failed answered =>
    cases whole
    exact next_ofOutput answered
  | item answered behind ih => exact ih whole

end Json.Lines

/-- A reader of either encoding reads lines as a reader of lines does. -/
theorem Decoder.exhausts_json_iff [Platform] {lines : Json.Lines} {records : List Record}
    {last : Except Error Unit} :
    (∃ rest, Exhausts nextRecord (.json lines) records last rest) ↔
      ∃ rest, Exhausts Json.Lines.next lines records last rest := by
  constructor
  · rintro ⟨rest, exhausts⟩
    -- The reader of lines inside makes each reading, and is the one inside again behind it.
    generalize start : Decoder.json lines = decoder at exhausts
    induction exhausts generalizing lines with
    | ended answered | failed answered =>
      subst start
      obtain ⟨⟨_, left⟩, read, same⟩ := Option.map_eq_some_iff.mp answered
      cases same
      first | exact ⟨left, .ended read⟩ | exact ⟨left, .failed read⟩
    | item answered behind ih =>
      subst start
      obtain ⟨⟨_, left⟩, read, same⟩ := Option.map_eq_some_iff.mp answered
      cases same
      obtain ⟨after, exhausts⟩ := ih rfl
      exact ⟨after, .item read exhausts⟩
  · rintro ⟨rest, exhausts⟩
    -- Each reading of lines is one of the reader around them.
    refine ⟨.json rest, ?_⟩
    induction exhausts with
    | ended answered => exact .ended (by rw [nextRecord, answered, Option.map_some])
    | failed answered => exact .failed (by rw [nextRecord, answered, Option.map_some])
    | item answered behind ih => exact .item (by rw [nextRecord, answered, Option.map_some]) ih

end EngineClient
