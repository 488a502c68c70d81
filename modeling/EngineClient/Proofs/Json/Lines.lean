import EngineClient.Json.Lines
import EngineClient.Proofs.Answers
import EngineClient.Proofs.Engine.Source
import Mathlib.Data.List.Forall2

/-! A reader of lines answers one item for each line that is not blank, in order. -/

namespace EngineClient.Json.Lines

/-- The lines of some bytes that are not blank, trimmed and with their numbers. -/
def unitsFrom (place : Nat) (bytes : Bytes) : List (Bytes × Nat) :=
  ((bytes.splitOn 0xA).zipIdx place).filterMap fun (line, place) =>
    if (Text.trimBytes line).isEmpty then none else some (Text.trimBytes line, place)

/-- What may be answered for a line that is not blank. -/
inductive Reads (unit : Bytes) (place : Nat) : Except Error Record → Prop where
  /-- An object is an event without a schema. -/
  | event {fields : Fields} (parsed : parse unit = .ok (.object fields)) :
    Reads unit place (.ok ⟨none, fields⟩)
  /-- Any other document breaks the format. -/
  | notObject {document : Json} {error : Error} (parsed : parse unit = .ok document)
    (other : ∀ fields, document ≠ .object fields)
    (kind : error.kind = .protocol) (raw : error.raw = some unit)
    (message : error.message
      = some ("json on line " ++ toString place ++ " is not an object")) :
    Reads unit place (.error error)
  /-- So does a line that is no document. -/
  | malformed {fault : Fault} {error : Error} (parsed : parse unit = .error fault)
    (kind : error.kind = .protocol) (raw : error.raw = some unit)
    (message : error.message = some ("malformed json on line " ++ toString place)) :
    Reads unit place (.error error)

/-- The item of a line is one that may be answered for it. -/
theorem reads_item (unit : Bytes) (place : Nat) : Reads unit place (item place unit) := by
  -- The three cases are those of the reader: an object, another document, no document.
  unfold item
  split
  · rename_i fields parsed
    exact .event parsed
  · rename_i document other parsed
    exact .notObject parsed other rfl rfl rfl
  · rename_i fault parsed
    exact .malformed parsed rfl rfl rfl

/-- A newline that was found lies between the two sides, and the first side has none. -/
theorem eq_of_splitLine {bytes line behind : Bytes}
    (split : Source.splitLine bytes = some (line, behind)) :
    bytes = line ++ 0xA :: behind ∧ 0xA ∉ line := by
  -- The newline is either the first byte or lies in the rest.
  induction bytes generalizing line with
  | nil => simp [Source.splitLine] at split
  | cons byte rest ih =>
    simp only [Source.splitLine] at split
    split at split
    · rename_i newline
      simp only [Option.some.injEq, Prod.mk.injEq] at split
      obtain ⟨rfl, rfl⟩ := split
      exact ⟨by simp [newline], by simp⟩
    · rename_i other
      split at split
      · rename_i found
        simp only [Option.some.injEq, Prod.mk.injEq] at split
        obtain ⟨rfl, rfl⟩ := split
        obtain ⟨whole, absent⟩ := ih found
        refine ⟨by rw [whole, List.cons_append], ?_⟩
        simp only [List.mem_cons, not_or]
        exact ⟨fun same => other same.symm, absent⟩
      · simp at split

/-- Where no newline is found there is none. -/
theorem not_mem_of_splitLine {bytes : Bytes} (whole : Source.splitLine bytes = none) :
    0xA ∉ bytes := by
  -- Each byte that the search passes is another one.
  induction bytes with
  | nil => simp
  | cons byte rest ih =>
    simp only [Source.splitLine] at whole
    split at whole
    · simp at whole
    · rename_i other
      split at whole
      · simp at whole
      · rename_i absent
        simp only [List.mem_cons, not_or]
        exact ⟨fun same => other same.symm, ih absent⟩

/-- No bytes have no lines that are not blank. -/
theorem unitsFrom_nil (place : Nat) : unitsFrom place [] = [] := by
  simp [unitsFrom, List.splitOn_nil, Text.trimBytes, Text.trimList]

/-- A line before a newline counts if it is not blank, and the others have the next numbers. -/
theorem unitsFrom_line {line : Bytes} (absent : 0xA ∉ line) (behind : Bytes) (place : Nat) :
    unitsFrom place (line ++ 0xA :: behind)
      = (if (Text.trimBytes line).isEmpty then [] else [(Text.trimBytes line, place)])
        ++ unitsFrom (place + 1) behind := by
  -- The line is the first piece, as there is no newline in it.
  rw [unitsFrom, List.splitOn_append_cons_self, List.splitOn_eq_singleton absent]
  simp only [List.cons_append, List.nil_append, List.zipIdx_cons, List.filterMap_cons, unitsFrom]
  split <;> simp_all

/-- The first line counts if it is not blank, and the others have the next numbers. -/
theorem unitsFrom_firstLine {bytes line behind : Bytes}
    (found : Source.firstLine? bytes = some (line, behind)) (place : Nat) :
    unitsFrom place bytes
      = (if (Text.trimBytes line).isEmpty then [] else [(Text.trimBytes line, place)])
        ++ unitsFrom (place + 1) behind := by
  simp only [Source.firstLine?] at found
  split at found
  · rename_i pair split
    -- The newline that was found is the first one, so the line before it is the first piece.
    obtain rfl : pair = (line, behind) := by simpa using found
    obtain ⟨rfl, absent⟩ := eq_of_splitLine split
    exact unitsFrom_line absent behind place
  · rename_i whole
    split at found
    · simp at found
    · -- The last line has no newline, and nothing is behind it.
      simp only [Option.some.injEq, Prod.mk.injEq] at found
      obtain ⟨rfl, rfl⟩ := found
      rw [unitsFrom, List.splitOn_eq_singleton (not_mem_of_splitLine whole), unitsFrom_nil]
      simp only [List.zipIdx_cons, List.zipIdx_nil, List.filterMap_cons, List.filterMap_nil,
        List.append_nil]
      split <;> simp_all

/-- A reading of the next event does what becomes of the next line. -/
theorem next_eq (lines : Lines) :
    lines.next = match lines.source.line with
      | none => none
      | some (.error cause, source) => some (.error (.ofRead cause), { lines with source })
      | some (.ok none, source) => some (.ok none, { lines with source })
      | some (.ok (some line), source) =>
        if (Text.trimBytes line).isEmpty then next ⟨source, lines.count + 1⟩
        else some ((item (lines.count + 1) (Text.trimBytes line)).map some,
          ⟨source, lines.count + 1⟩) := by
  -- The reader goes on exactly where the line is blank.
  rw [next]
  split <;> simp_all

/-- A reader answers the item of the next line that is not blank, or that there is none. -/
theorem next_holds {lines : Lines} {bytes : Bytes} (holds : lines.source.Holds bytes) :
    match unitsFrom (lines.count + 1) bytes with
    | [] => ∃ rest, lines.next = some (.ok none, rest) ∧ rest.source.Holds []
    | (unit, place) :: others => ∃ rest behind,
      lines.next = some ((item place unit).map some, rest)
        ∧ rest.source.Holds behind ∧ unitsFrom (rest.count + 1) behind = others := by
  -- The induction is on the bytes that are left, of which a blank line takes at least one.
  induction sized : lines.source.size using Nat.strongRecOn generalizing lines bytes with
  | ind size ih =>
    obtain ⟨rest, read, left⟩ := Source.line_holds holds
    rw [next_eq, read]
    cases found : Source.firstLine? bytes with
    | none =>
      -- Only where no byte is left there is no line.
      have none' : bytes = [] := by
        simp only [Source.firstLine?] at found
        split at found
        · simp at found
        · simpa using found
      subst none'
      simp only [unitsFrom_nil, Option.map_none]
      refine ⟨_, rfl, ?_⟩
      simpa [found] using left
    | some pair =>
      obtain ⟨line, behind⟩ := pair
      simp only [found, Option.map_some, Option.getD_some] at read left ⊢
      rw [unitsFrom_firstLine found]
      by_cases blank : (Text.trimBytes line).isEmpty
      -- A blank line is passed over, and the next reading is one of fewer bytes.
      · simp only [if_pos blank, List.nil_append]
        have shorter : rest.size < size := by
          rw [← sized]
          exact Source.line_size read
        have onward : (⟨rest, lines.count + 1⟩ : Lines).source.Holds behind := left
        exact ih rest.size shorter onward rfl
      · simp only [if_neg blank, List.cons_append, List.nil_append]
        -- Any other line is the item, and the number of the next one follows its own.
        exact ⟨_, behind, rfl, left, rfl⟩

/-- However often it is asked, a reader answers the items in order and then the end. -/
theorem answersTo_next {lines : Lines} {bytes : Bytes} (holds : lines.source.Holds bytes)
    (count : Nat) :
    answersTo next count lines = some (answersThen
      ((unitsFrom (lines.count + 1) bytes).map fun (unit, place) => (item place unit).map some)
      (.ok none) count) := by
  -- Each answer takes the first line that is left, and where none is left the end is repeated.
  induction count generalizing lines bytes with
  | zero => simp [answersTo]
  | succ count ih =>
    have step := next_holds holds
    split at step
    · -- No line is left, and asking changes nothing.
      rename_i finished
      obtain ⟨rest, answered, left⟩ := step
      rw [answersTo_succ answered, ih left, finished, unitsFrom_nil]
      simp [List.replicate_succ]
    · -- The first line is answered, and the others are those behind it.
      rename_i unit place others pending
      obtain ⟨rest, behind, answered, left, same⟩ := step
      rw [answersTo_succ answered, ih left, same, pending]
      simp

/-- Two readers with the same bytes before them, which have read as many lines. -/
structure Alike (one other : Lines) : Prop where
  /-- The bytes that both have before them. -/
  bytes : ∃ bytes, one.source.Holds bytes ∧ other.source.Holds bytes
  /-- How many lines both have read. -/
  count : one.count = other.count

/-- Readers that are alike read the same event. -/
theorem next_alike {one other : Lines} (alike : Alike one other) :
    SameAnswer Alike one.next other.next := by
  -- The induction is on the bytes that are left, of which a blank line takes at least one.
  induction sized : one.source.size using Nat.strongRecOn generalizing one other with
  | ind size ih =>
    obtain ⟨⟨bytes, oneHolds, otherHolds⟩, count⟩ := alike
    obtain ⟨left, oneRan, leftHolds⟩ := Source.line_holds oneHolds
    obtain ⟨right, otherRan, rightHolds⟩ := Source.line_holds otherHolds
    rw [next_eq one, next_eq other, oneRan, otherRan, ← count]
    cases found : Source.firstLine? bytes with
    | none => exact .intro ⟨⟨_, leftHolds, rightHolds⟩, rfl⟩
    | some pair =>
      -- Both readers take the same line and leave the same bytes.
      have shorter : left.size < size := by
        rw [found] at oneRan
        exact sized ▸ Source.line_size oneRan
      have onward : Alike ⟨left, one.count + 1⟩ ⟨right, one.count + 1⟩ :=
        ⟨⟨_, leftHolds, rightHolds⟩, rfl⟩
      simp only [Option.map_some]
      split
      · exact ih left.size shorter onward rfl
      · exact .intro onward

/-- A reader answers one item for each line that is not blank, in order, and then the end for ever. -/
theorem next_reads_lines {source : Source} {bytes : Bytes} (holds : source.Holds bytes) :
    ∃ items : List (Except Error Record),
      List.Forall₂ (fun unit item => Reads unit.1 unit.2 item) (unitsFrom 1 bytes) items
        ∧ ∀ count, answersTo next count { source }
          = some (answersThen (items.map (Except.map some)) (.ok none) count) := by
  -- The items are those of the lines, one by one, and each is one that may be answered.
  refine ⟨(unitsFrom 1 bytes).map fun (unit, place) => item place unit, ?_, fun count => ?_⟩
  · rw [List.forall₂_map_right_iff, List.forall₂_same]
    exact fun unit _ => reads_item unit.1 unit.2
  · rw [answersTo_next holds count, List.map_map]
    rfl

/-- An object, a blank line, a broken line and an object without a newline, cut at odd places. -/
theorem next_reads_lines_cut :
    let source : Source := { events :=
      [.data [0x7B, 0x7D, 0x0D], .pause 5, .data [0x0A, 0x0C, 0x0A, 0x5B], .data [],
        .data [0x0A, 0x7B, 0x7D]] }
    let bytes : Bytes := [0x7B, 0x7D, 0x0D, 0x0A, 0x0C, 0x0A, 0x5B, 0x0A, 0x7B, 0x7D]
    source.Holds bytes
      ∧ unitsFrom 1 bytes = [([0x7B, 0x7D], 1), ([0x5B], 3), ([0x7B, 0x7D], 4)]
      ∧ ∃ items : List (Except Error Record),
        List.Forall₂ (fun unit item => Reads unit.1 unit.2 item) (unitsFrom 1 bytes) items
          ∧ ∀ count, answersTo next count { source }
            = some (answersThen (items.map (Except.map some)) (.ok none) count) := by
  intro source bytes
  have holds : source.Holds bytes := ⟨by simp [source, OutputEvent.IsQuiet], rfl⟩
  exact ⟨holds, by decide, next_reads_lines holds⟩

/-- A reader whose output never comes to hang. -/
def IsLive (lines : Lines) : Prop :=
  lines.source.IsLive

/-- A line that is no event is a failure of output. -/
theorem item_ofOutput {place : Nat} {unit : Bytes} {error : Error}
    (failed : item place unit = .error error) : error.IsOfOutput := by
  unfold item at failed
  split at failed
  · cases failed
  · cases failed
    exact Error.isOfOutput_ofRaw _ _
  · cases failed
    -- A line that cannot be read tells the cause too, but no error output.
    exact ⟨.inr rfl, rfl⟩

/-- Reading the next event comes to an answer where nothing hangs. -/
theorem next_answered {lines : Lines} (live : lines.IsLive) :
    Answered IsLive Error.IsOfOutput lines.next := by
  -- The induction is on the blank lines on the way to the event.
  have answered := Source.line_answered live
  fun_induction next lines with
  | case1 lines stuck =>
    rw [stuck] at answered
    cases answered
  | case2 lines cause source read =>
    rw [read] at answered
    cases answered with
    | error allowed kept => exact .error (Error.isOfOutput_ofRead cause) kept
  | case3 lines source read =>
    rw [read] at answered
    cases answered with
    | ok kept => exact .ok kept
  -- The line is blank, and the reader goes on behind it.
  | case4 lines line source read counted unit blank ih =>
    rw [read] at answered
    cases answered with
    | ok kept => exact ih kept (Source.line_answered kept)
  | case5 lines line source read counted unit blank =>
    rw [read] at answered
    cases answered with
    | ok kept =>
      -- The line is an event or a failure, and both are answers.
      cases found : item counted.count unit with
      | ok record => exact .ok kept
      | error error => exact .error (item_ofOutput found) kept

end EngineClient.Json.Lines
