import EngineClient.Client
import EngineClient.Proofs.Engine.Run
import EngineClient.Proofs.Text.Blank
import EngineClient.Proofs.Text.Unsigned
import EngineClient.Proofs.Text.Utf8.Strict

/-! Which outputs of an engine are counts, and what is answered for those that are none. -/

namespace EngineClient.Client

open Text (isBlank)

/-- An output is text, and without the blanks around it a number of at most sixty-four bits. -/
def TellsCount (output : Bytes) (count : Nat) : Prop :=
  ∃ chars kept, output = Utf8.spell chars ∧ Text.Strips isBlank chars kept ∧
    Unsigned.Spells kept count ∧ count < Nat.pow 2 64

/-- The failure for an output that is no count: it has the whole output in it, and the query without
the blanks around it. -/
def countFault (query : String) (output : Bytes) : Error :=
  { kind := .protocol, message := some "engine count output is not an integer"
    raw := some output, input := some (Text.trim query) }

section

variable {output : Bytes} {count : Nat}

/-- An output is read as the count that it tells. -/
theorem countOf?_eq_some_iff : countOf? output = some count ↔ TellsCount output count := by
  -- The greatest number of sixty-four bits is the one before the power.
  have bound (value : Nat) : value ≤ Unsigned.max64 ↔ value < Nat.pow 2 64 :=
    Nat.le_sub_one_iff_lt (Nat.pow_pos (by decide))
  unfold countOf? TellsCount
  constructor
  · intro read
    -- The output is decoded, trimmed and read, and each of these steps succeeds.
    obtain ⟨text, decoded, parsed⟩ := Option.bind_eq_some_iff.mp read
    obtain ⟨spells, most⟩ := Unsigned.parseList_eq_ok_iff.mp (toOption_eq_some_iff.mp parsed)
    refine ⟨text.toList, (Text.trim text).toList, Utf8.decode?_eq_some_iff.mp decoded, ?_, spells,
      (bound count).mp most⟩
    rw [Text.strips_iff, Text.trim, String.toList_ofList]
  · rintro ⟨chars, kept, rfl, strips, spells, fits⟩
    -- The text is that of the bytes, and trimming it is unique.
    have trimmed : (Text.trim (String.ofList chars)).toList = kept := by
      rw [Text.trim, String.toList_ofList, String.toList_ofList, Text.strips_iff.mp strips]
    have parsed : Unsigned.parse Unsigned.max64 (Text.trim (String.ofList chars)) = .ok count := by
      rw [Unsigned.parse, trimmed]
      exact Unsigned.parseList_eq_ok_iff.mpr ⟨spells, (bound count).mpr fits⟩
    apply Option.bind_eq_some_iff.mpr
    exact ⟨_, Utf8.decode?_spell chars, toOption_eq_some_iff.mpr parsed⟩

/-- Digits with blanks around them tell the number that they make up, if it fits, and no other. -/
theorem tellsCount_digits {before digits behind : List Char} {value : Nat}
    (first : ∀ char ∈ before, isBlank char = true) (last : ∀ char ∈ behind, isBlank char = true)
    (number : Unsigned.IsDigits digits value) :
    TellsCount (Utf8.spell (before ++ digits ++ behind)) count ↔ count = value ∧ value < Nat.pow 2 64 := by
  -- No digit is a blank, so trimming stops at the digits.
  have dense : Text.Trimmed isBlank digits :=
    { first := fun char head => Text.isBlank_of_isDigit (number.all char (List.mem_of_head? head))
      last := fun char last => Text.isBlank_of_isDigit (number.all char (List.mem_of_getLast? last)) }
  have strips : Text.Strips isBlank (before ++ digits ++ behind) digits :=
    ⟨⟨before, behind, rfl, first, last⟩, dense⟩
  constructor
  · rintro ⟨chars, kept, spelled, others, spells, fits⟩
    -- The bytes spell no other text, and trimming leaves no other digits of it.
    have same : before ++ digits ++ behind = chars := by
      have read := congrArg Utf8.decode? spelled
      rw [Utf8.decode?_spell, Utf8.decode?_spell] at read
      exact String.ofList_injective (Option.some.inj read)
    subst same
    obtain rfl := others.eq strips
    cases spells with
    | bare found =>
      have same : count = value := found.value.symm.trans number.value
      -- Digits have one value.
      exact ⟨same, same ▸ fits⟩
    -- A plus sign is no digit.
    | signed found => exact (Unsigned.not_isDigits_plus _ number).elim
  · rintro ⟨rfl, fits⟩
    exact ⟨_, digits, rfl, strips, .bare number, fits⟩

/-- An output is answered with the count that it tells, or with a failure. -/
theorem readCount_eq_ok_iff {query : Query} :
    readCount query output = .ok count ↔ TellsCount output count := by
  rw [← countOf?_eq_some_iff, readCount]
  cases countOf? output <;> simp

/-- An output that tells no count is answered with the failure for it. -/
theorem readCount_ofText (query : String) (none : ¬∃ count, TellsCount output count) :
    readCount (Query.ofText query) output = .error (countFault query output) := by
  -- A count that was read would be one that the output tells.
  have unread : countOf? output = Option.none := by
    apply Option.eq_none_iff_forall_ne_some.mpr
    intro count read
    exact none ⟨count, countOf?_eq_some_iff.mp read⟩
  rw [readCount, unread]
  rfl

end

/-- A count is answered exactly if the engine brings an output in time that tells it. Every other
output that is brought in time is answered with the failure for it. So a number among blanks is
answered as it is, however many digits it has, or with a failure if it has more than sixty-four
bits. -/
theorem count_answers (client : Client) (query : String) (engine : Engine) :
    let answer := (client.count (Query.ofText query) engine).result
    let brings := engine.BringsWithin client.countTimeout
    (∀ count, answer = .ok count ↔ ∃ output, brings output ∧ TellsCount output count) ∧
    (∀ output, brings output → (¬∃ count, TellsCount output count) →
      answer = .error (countFault query output)) ∧
    ∀ before digits behind value, (∀ char ∈ before, isBlank char = true) →
      (∀ char ∈ behind, isBlank char = true) → Unsigned.IsDigits digits value →
      ∀ output, brings output → output = Utf8.spell (before ++ digits ++ behind) →
        answer = if value < Nat.pow 2 64 then .ok value else .error (countFault query output) := by
  intro answer brings
  -- The answer is the count that is read of what the engine brings.
  have counts (count : Nat) :
      answer = .ok count ↔ ∃ output, brings output ∧ TellsCount output count := by
    show (_ >>= readCount (Query.ofText query)) = _ ↔ _
    simp only [bind_eq_ok_iff, Engine.run_eq_ok_iff, readCount_eq_ok_iff]
    rfl
  -- An output that tells no count is brought all the same, and only reading it fails.
  have fails (output : Bytes) (brought : brings output) (none : ¬∃ count, TellsCount output count) :
      answer = .error (countFault query output) := by
    have ran : (engine.run (client.countInvocation (Query.ofText query)) client.countTimeout
        client.grace).answer = .ok output := Engine.run_eq_ok_iff.mpr brought
    show Except.bind _ _ = _
    rw [ran]
    exact readCount_ofText query none
  refine ⟨counts, fails, ?_⟩
  intro before digits behind value first last number output brought spelled
  -- Of digits among blanks the number that they make up is told, if it fits.
  have told (count : Nat) : TellsCount output count ↔ count = value ∧ value < Nat.pow 2 64 := by
    rw [spelled]
    exact tellsCount_digits first last number
  split
  · rename_i fits
    exact (counts value).mpr ⟨output, brought, (told value).mpr ⟨rfl, fits⟩⟩
  · -- A number that does not fit is told by no count.
    rename_i large
    apply fails output brought
    rintro ⟨count, tells⟩
    exact large ((told count).mp tells).2

end EngineClient.Client
