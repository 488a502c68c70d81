import EngineClient.Json.Value
import EngineClient.Text.Blank
import Mathlib.Data.List.Basic
import Mathlib.Data.List.TakeWhile

/-! Texts without blanks around them: what trimming brings about, and what it leaves alone. -/

namespace EngineClient.Text

section

variable {α : Type} {drop : α → Bool} {items : List α}

/-- A list that begins and ends with members that stay. -/
structure Trimmed (drop : α → Bool) (items : List α) : Prop where
  first : ∀ item, items.head? = some item → drop item = false
  last : ∀ item, items.getLast? = some item → drop item = false

/-- Nothing is dropped off a list that begins with a member that stays. -/
theorem dropWhile_of_first (first : ∀ item, items.head? = some item → drop item = false) :
    items.dropWhile drop = items := by
  -- The first item stays, and so do all behind it.
  cases items with
  | nil => rfl
  | cons item rest =>
    have stays := first item rfl
    rw [List.dropWhile_cons, stays]
    rfl

/-- What is left where members were dropped begins with one that stays. -/
theorem head_dropWhile {item : α} (head : (items.dropWhile drop).head? = some item) :
    drop item = false := by
  have stays := List.head?_dropWhile_not drop items
  rw [head] at stays
  exact stays

/-- Trimming trims. -/
theorem trimList_trimmed (drop : α → Bool) (items : List α) :
    Trimmed drop (trimList drop items) where
  first := by
    intro item head
    -- What is left after trimming the end is a front of what is left after trimming the beginning.
    have suffix : (items.dropWhile drop).reverse.dropWhile drop <:+ (items.dropWhile drop).reverse :=
      List.dropWhile_suffix drop
    obtain ⟨dropped, whole⟩ := suffix
    have front : items.dropWhile drop = trimList drop items ++ dropped.reverse := by
      rw [trimList, ← List.reverse_append, whole, List.reverse_reverse]
    -- So both begin with one item, which was not dropped.
    have same : (items.dropWhile drop).head? = some item := by
      rw [front, List.head?_append, head]
      rfl
    exact head_dropWhile same
  last := by
    intro item last
    rw [trimList, List.getLast?_reverse] at last
    exact head_dropWhile last

/-- Trimming leaves a trimmed list alone. -/
theorem Trimmed.trimList_eq (trimmed : Trimmed drop items) : trimList drop items = items := by
  have last : ∀ item, items.reverse.head? = some item → drop item = false := by
    intro item head
    rw [List.head?_reverse] at head
    exact trimmed.last item head
  -- Neither end has anything to drop, the second one as the beginning of the reverse.
  rw [trimList, dropWhile_of_first trimmed.first, dropWhile_of_first last, List.reverse_reverse]

/-- A list without what is to be dropped around it. -/
structure Strips (drop : α → Bool) (items kept : List α) : Prop where
  around : ∃ before behind, items = before ++ kept ++ behind ∧
    (∀ item ∈ before, drop item = true) ∧ ∀ item ∈ behind, drop item = true
  trimmed : Trimmed drop kept

/-- Trimming leaves what is not to be dropped, and nothing else is left so. -/
theorem strips_iff {kept : List α} : Strips drop items kept ↔ trimList drop items = kept := by
  constructor
  · rintro ⟨⟨before, behind, rfl, first, last⟩, trimmed⟩
    rw [trimList, List.append_assoc, List.dropWhile_append_of_pos first]
    -- If nothing is kept, all is dropped at once.
    cases kept with
    | nil =>
      have gone : behind.dropWhile drop = [] := List.dropWhile_eq_nil_iff.mpr last
      rw [List.nil_append, gone]
      rfl
    | cons item rest =>
      -- The front is gone with the first trimming, and the end with the second one.
      have stays := trimmed.first item rfl
      have reversed : ∀ item ∈ behind.reverse, drop item = true :=
        fun item member => last item (List.mem_reverse.mp member)
      have ends := trimmed.trimList_eq
      rw [trimList, dropWhile_of_first trimmed.first] at ends
      rw [List.cons_append, List.dropWhile_cons, stays, if_neg Bool.false_ne_true, ← List.cons_append,
        List.reverse_append, List.dropWhile_append_of_pos reversed, ends]
  · rintro rfl
    refine ⟨⟨items.takeWhile drop, ((items.dropWhile drop).reverse.takeWhile drop).reverse, ?_,
      fun item member => List.mem_takeWhile_imp member,
      fun item member => List.mem_takeWhile_imp (List.mem_reverse.mp member)⟩,
      trimList_trimmed drop items⟩
    rw [trimList, List.append_assoc, ← List.reverse_append, List.takeWhile_append_dropWhile,
      List.reverse_reverse, List.takeWhile_append_dropWhile]

/-- There is one list without what is to be dropped around it. -/
theorem Strips.eq {kept other : List α} (one : Strips drop items kept)
    (second : Strips drop items other) : kept = other :=
  (strips_iff.mp one).symm.trans (strips_iff.mp second)

/-- A trimmed list with something in it stays trimmed behind a beginning that stays. -/
theorem Trimmed.behind (trimmed : Trimmed drop items) (filled : items ≠ []) {item : α}
    (stays : drop item = false) (before : List α) : Trimmed drop (item :: before ++ items) where
  first := by
    intro head found
    cases found
    exact stays
  last := by
    intro last found
    -- As there is something in the list, its end is the end of the whole.
    rw [List.getLast?_append_of_ne_nil _ filled] at found
    exact trimmed.last last found

end

/-- Nothing is left to trim of a trimmed text. -/
theorem trim_trimmed (text : String) : Trimmed isBlank (trim text).toList := by
  rw [trim, String.toList_ofList]
  exact trimList_trimmed isBlank text.toList

/-- Trimming leaves a trimmed text alone. -/
theorem trim_eq {text : String} (trimmed : Trimmed isBlank text.toList) : trim text = text := by
  rw [trim, trimmed.trimList_eq, String.ofList_toList]

/-- Nothing is left of a text exactly if it has blanks only. -/
theorem trim_eq_empty_iff {text : String} :
    trim text = "" ↔ ∀ char ∈ text.toList, isBlank char = true := by
  rw [trim, String.ofList_eq_empty_iff, ← strips_iff]
  -- A text is trimmed to nothing if all of it is dropped on one side or the other.
  constructor
  · rintro ⟨⟨before, behind, whole, first, last⟩, _⟩
    rw [whole, List.append_nil]
    exact List.forall_mem_append.mpr ⟨first, last⟩
  · intro blank
    exact ⟨⟨text.toList, [], by simp, blank, List.forall_mem_nil _⟩,
      ⟨fun _ head => (nomatch head), fun _ last => (nomatch last)⟩⟩

/-- A text without any blank. -/
def IsDense (text : String) : Prop :=
  ∀ char ∈ text.toList, isBlank char = false

namespace IsDense

variable {one other : String}

/-- A text without any blank is trimmed. -/
theorem trimmed (dense : IsDense one) : Trimmed isBlank one.toList where
  first := fun char head => dense char (List.mem_of_head? head)
  last := fun char last => dense char (List.mem_of_getLast? last)

/-- Texts without blanks make one without blanks. -/
theorem append (first : IsDense one) (second : IsDense other) : IsDense (one ++ other) := by
  intro char member
  rw [String.toList_append] at member
  exact (List.mem_append.mp member).elim (first char) (second char)

/-- A choice of two texts without blanks is without blanks. -/
theorem ite {condition : Prop} [Decidable condition] (first : IsDense one)
    (second : IsDense other) : IsDense (if condition then one else other) := by
  split
  · exact first
  · exact second

end IsDense

/-- A digit is no blank. -/
theorem isBlank_of_isDigit {char : Char} (digit : char.isDigit = true) : isBlank char = false := by
  have bounds : 48 ≤ char.toNat ∧ char.toNat ≤ 57 := by
    simpa [Char.isDigit, UInt32.le_iff_toNat_le] using digit
  -- All blanks lie outside of the ten places of the digits.
  simp only [isBlank, Bool.or_eq_false_iff, Bool.and_eq_false_iff, decide_eq_false_iff_not]
  omega

/-- Digits are no blanks. -/
theorem isDense_digits {digits : List Char} (all : ∀ char ∈ digits, char.isDigit = true) :
    IsDense (String.ofList digits) := by
  intro char member
  rw [String.toList_ofList] at member
  exact isBlank_of_isDigit (all char member)

/-- The digits of a natural number are digits. -/
theorem isDigit_toDigits {value : Nat} : ∀ char ∈ Nat.toDigits 10 value, char.isDigit = true :=
  fun _ member => Nat.isDigit_of_mem_toDigits (by decide) (by decide) member

/-- Nothing else is one of them. -/
theorem not_mem_toDigits {char : Char} (other : char.isDigit = false) (value : Nat) :
    char ∉ Nat.toDigits 10 value := by
  intro member
  rw [isDigit_toDigits char member] at other
  cases other

/-- A natural number is written without blanks. -/
theorem isDense_nat (value : Nat) : IsDense (toString value) := by
  intro char member
  rw [Nat.toString_eq_repr, Nat.toList_repr] at member
  exact isBlank_of_isDigit (isDigit_toDigits char member)

/-- A whole number is written without blanks. -/
theorem isDense_int (value : Int) : IsDense (toString value) := by
  rw [Int.toString_eq_repr]
  cases value with
  | ofNat value => exact isDense_nat value
  | negSucc value =>
    -- A negative number has a sign before its digits.
    have sign : IsDense "-" := by simp [IsDense, isBlank]
    exact sign.append (isDense_nat (value + 1))

end EngineClient.Text

namespace EngineClient

open Text

namespace NumberLayout

/-- A run of zeros has no blanks. -/
theorem isDense_zeros (count : Nat) : IsDense (zeros count) :=
  isDense_digits fun char member => by rw [List.eq_of_mem_replicate member]; rfl

/-- A decimal number is laid out without blanks. -/
theorem isDense_layOut {layout : NumberLayout} (plus : IsDense layout.plus)
    (number : Shortest.Decimal) : IsDense (layout.layOut number) := by
  have literals : IsDense "" ∧ IsDense "0" ∧ IsDense "0.0" ∧ IsDense ".0" ∧ IsDense "." ∧
      IsDense "0." ∧ IsDense "e" ∧ IsDense "-" := by
    simp [IsDense, isBlank]
  obtain ⟨empty, zero, zeroPoint, pointZero, point, zeroDot, exponent, minus⟩ := literals
  -- Digits are no blanks, whichever of them are taken.
  have part {digits : List Char} (inside : digits ⊆ Nat.toDigits 10 number.digits) :
      IsDense (String.ofList digits) :=
    isDense_digits fun char member => isDigit_toDigits char (inside member)
  unfold layOut
  dsimp only
  -- Each of the forms puts digits, zeros and a few signs together.
  refine .ite (.ite zeroPoint zero) (.ite (.ite ?_ (.ite ?_ ?_)) ?_)
  · exact ((part (List.Subset.refl _)).append (isDense_zeros _)).append (.ite pointZero empty)
  · exact ((part (List.take_subset _ _)).append point).append (part (List.drop_subset _ _))
  · exact (zeroDot.append (isDense_zeros _)).append (part (List.Subset.refl _))
  · refine ((IsDense.append ?_ exponent).append (.ite plus minus)).append (isDense_nat _)
    -- The mantissa has no digit, one, or a point behind the first of several.
    split
    · exact empty
    · rename_i digit alone
      exact part (by rw [alone]; exact List.Subset.refl _)
    · rename_i digit rest _ several
      intro char member
      rw [String.toList_ofList] at member
      rcases List.mem_cons.mp member with rfl | behind
      · exact isBlank_of_isDigit (isDigit_toDigits char (several ▸ List.mem_cons_self))
      · rcases List.mem_cons.mp behind with rfl | later
        · rfl
        · exact isBlank_of_isDigit
            (isDigit_toDigits char (several ▸ List.mem_cons_of_mem _ later))

/-- A number is rendered without blanks. -/
theorem isDense_render {layout : NumberLayout} (plus : IsDense layout.plus) (format : FloatFormat)
    (bits : Nat) : IsDense (layout.render format bits) := by
  have literals : IsDense "" ∧ IsDense "-" ∧ IsDense "-inf" ∧ IsDense "inf" ∧ IsDense "NaN" := by
    simp [IsDense, isBlank]
  obtain ⟨empty, minus, below, above, none⟩ := literals
  unfold render
  -- A number is finite, an infinity or none.
  split
  · exact (IsDense.ite minus empty).append (isDense_layOut plus _)
  · exact .ite below above
  · exact none

end NumberLayout

/-- A JSON number is written without blanks. -/
theorem Json.Number.isDense_render (value : Json.Number) : IsDense value.render := by
  -- A whole number is digits with a sign at most, and a double is laid out from digits.
  cases value with
  | int value => exact isDense_int value
  | double value =>
    have plus : IsDense NumberLayout.json.plus := by simp [IsDense, isBlank, NumberLayout.json]
    exact NumberLayout.isDense_render plus .double value.bits.toNat

end EngineClient
