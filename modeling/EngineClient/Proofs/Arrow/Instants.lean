import EngineClient.Proofs.Arrow.Within
import EngineClient.Proofs.Time.Rfc3339

/-! Cells that hold instants are shown as texts that are read back as these instants. -/

namespace EngineClient.Arrow

open Rfc3339 (InYears read?)

/-- A cell that is there and counts units of time to an instant, which is given in nanoseconds. Both
start on the first of January 1970. -/
inductive HoldsInstant : Field → Slot → Int → Prop
  | mk {field : Field} {unit : TimeUnit} {zone : Option String}
    (type : field.type = .timestamp unit zone) (count : Int) :
    HoldsInstant field ⟨true, .int count⟩ (count * unit.nanoseconds)

section

variable [Platform]

variable {field : Field} {slot : Slot} {instant : Int}

/-- An instant that has a text is shown as that text, whatever notes its field has. -/
theorem HoldsInstant.cellJson_eq {text : String} (holds : HoldsInstant field slot instant)
    (shown : (Instant.ofNanoseconds instant).rfc3339? = some text) :
    cellJson field slot = .ok (.string text) := by
  obtain @⟨unit, zone, type, count⟩ := holds
  -- An instant has no meaning beyond its type.
  have plain : meaningText? field.notes field.type (.int count) = none := by
    rw [type]
    exact meaningText?_eq_none rfl rfl
  have told : (Instant.ofUnits unit count).rfc3339? = some text := shown
  rw [cellJson_plain plain, type]
  simp only [valueJson, scalarJson, told]

/-- An instant of the years of four digits is shown as a text that is read back as that instant. -/
theorem HoldsInstant.exists_text (holds : HoldsInstant field slot instant)
    (inYears : InYears instant) :
    ∃ text, cellJson field slot = .ok (.string text) ∧ read? text.toList = some instant := by
  obtain ⟨text, shown, read⟩ := Rfc3339.read?_ofNanoseconds inYears
  exact ⟨text, holds.cellJson_eq shown, read⟩

end

/-- Instants of the years of four digits are shown in universal time as texts that are read back to
the nanosecond, so that two cells are shown alike exactly if they hold one instant. Every sixty-four
bit count of nanoseconds is such an instant. -/
theorem instants_told [Platform] :
    (∀ field slot instant, HoldsInstant field slot instant → InYears instant →
      ∃ text, cellJson field slot = .ok (.string text) ∧ read? text.toList = some instant) ∧
    (∀ field slot instant field' slot' instant', HoldsInstant field slot instant →
      HoldsInstant field' slot' instant' → InYears instant → InYears instant' →
        (cellJson field slot = cellJson field' slot' ↔ instant = instant')) ∧
    ∀ count : Int, -9223372036854775808 ≤ count → count < 9223372036854775808 →
      InYears (count * TimeUnit.nanosecond.nanoseconds) := by
  refine ⟨fun _ _ _ => HoldsInstant.exists_text, ?_, ?_⟩
  · intro field slot instant field' slot' instant' holds holds' inYears inYears'
    obtain ⟨text, told, read⟩ := Rfc3339.read?_ofNanoseconds inYears
    obtain ⟨text', told', read'⟩ := Rfc3339.read?_ofNanoseconds inYears'
    rw [holds.cellJson_eq told, holds'.cellJson_eq told']
    constructor
    · -- One text is read back as one instant.
      intro same
      cases same
      exact Option.some.inj (read.symm.trans read')
    · -- One instant has one text, in whatever units it is counted.
      rintro rfl
      rw [Option.some.inj (told.symm.trans told')]
  · -- Sixty-four bits of nanoseconds reach less than three hundred years to either side of 1970.
    intro count least most
    rw [Rfc3339.inYears_iff]
    show _ ≤ count * (1 : Nat) ∧ count * (1 : Nat) < _
    omega

open scoped Platform in
/-- Half a second before 1970 is such an instant, counted in milliseconds. -/
theorem instants_told_halfSecond :
    let field : Field := ⟨"time", .timestamp .millisecond none, true, none, []⟩
    let instant : Int := -500 * TimeUnit.millisecond.nanoseconds
    HoldsInstant field ⟨true, .int (-500)⟩ instant ∧ InYears instant ∧
      ∃ text, cellJson field ⟨true, .int (-500)⟩ = .ok (.string text) ∧
        read? text.toList = some instant := by
  intro field instant
  have holds : HoldsInstant field ⟨true, .int (-500)⟩ instant := .mk rfl (-500)
  have inYears : InYears instant := (Rfc3339.inYears_iff instant).mpr (by decide +kernel)
  exact ⟨holds, inYears, instants_told.1 _ _ _ holds inYears⟩

end EngineClient.Arrow
