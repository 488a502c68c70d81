import EngineClient.Dialect
import EngineClient.Proofs.Text.Blank

/-! Which conditions on events ask for all of them, and which of these say so. -/

namespace EngineClient.Predicate

open ObservableType (ofHint?)
open Text (isBlank)

/-- A condition says of itself that it holds of any event exactly if its query asks for all of them. -/
def TellsTruth (predicate : Predicate) : Prop :=
  predicate.toQuery.isMatchAll = predicate.isMatchAll

/-- An observable that is looked up as it is, of which trimming leaves nothing. -/
def BlankLiteral (hint value : String) : Prop :=
  (ofHint? hint = some .hash ∨ ofHint? hint = some .domain) ∧
    ∀ char ∈ value.toList, isBlank char = true

/-- A query asks for all events exactly if the condition that it is made of has blanks only. -/
theorem toQuery_isMatchAll_iff {predicate : Predicate} :
    predicate.toQuery.isMatchAll = true ↔
      ∀ char ∈ predicate.expression.toList, isBlank char = true := by
  rw [toQuery, Query.ofText, Query.isMatchAll, decide_eq_true_iff, Text.trim_eq_empty_iff]

/-- A condition with a template does not ask for all events, even if the observable is blank. -/
theorem toQuery_isMatchAll_of_template {predicate : Predicate} {rest : List Char}
    (template : predicate.expression.toList = ':' :: rest) :
    predicate.toQuery.isMatchAll = false := by
  rw [← Bool.not_eq_true, toQuery_isMatchAll_iff, template]
  -- The colon that it begins with is no blank.
  intro blank
  exact absurd (blank ':' List.mem_cons_self) (by decide)

/-- A literal asks for all events exactly if it is blank. -/
theorem toQuery_literal_isMatchAll_iff {value : String} :
    (literal (Text.trim value)).toQuery.isMatchAll = true ↔
      ∀ char ∈ value.toList, isBlank char = true := by
  -- The query is trimmed once more, which changes nothing.
  rw [toQuery, expression, Query.ofText, Query.isMatchAll, decide_eq_true_iff,
    Text.trim_eq (Text.trim_trimmed value), Text.trim_eq_empty_iff]

/-- The query of an observable asks for all events exactly if the type of the observable is unknown,
or if it is looked up as it is and blank. The condition says so in the first case only, and therefore
tells the truth exactly if it is not of the second kind. -/
theorem tellsTruth_iff (hint value : String) :
    ((forObservable (ofHint? hint) value).isMatchAll = true ↔ ofHint? hint = none) ∧
    ((forObservable (ofHint? hint) value).toQuery.isMatchAll = true ↔
      ofHint? hint = none ∨ BlankLiteral hint value) ∧
    ((forObservable (ofHint? hint) value).TellsTruth ↔ ¬BlankLiteral hint value) := by
  unfold TellsTruth BlankLiteral
  cases ofHint? hint with
  | none =>
    -- Without a type there is no condition, and an empty one asks for all events.
    have all : matchAll.toQuery.isMatchAll = true :=
      toQuery_isMatchAll_iff.mpr (List.forall_mem_nil _)
    simp [forObservable, all, isMatchAll]
  | some type =>
    -- Two types have a template, and two are looked up as they are.
    cases type with
    | ip =>
      have some : (ipEquals (Text.trim value)).toQuery.isMatchAll = false :=
        toQuery_isMatchAll_of_template String.toList_append
      simp [forObservable, some, isMatchAll]
    | subnet =>
      have some : (ipIn (Text.trim value)).toQuery.isMatchAll = false :=
        toQuery_isMatchAll_of_template String.toList_append
      simp [forObservable, some, isMatchAll]
    | hash => simp [forObservable, ← toQuery_literal_isMatchAll_iff, isMatchAll]
    | domain => simp [forObservable, ← toQuery_literal_isMatchAll_iff, isMatchAll]

/-- A hash of blanks does not say that it asks for all events, but its query does, and the events are
counted without an expression. -/
theorem not_tellsTruth_blankHash :
    ¬(forObservable (ofHint? "hash") " \t").TellsTruth ∧
    (forObservable (ofHint? "hash") " \t").isMatchAll = false ∧
    ((Dialect.control Dialect.defaultProgram).count Endpoint.default
        (forObservable (ofHint? "hash") " \t").toQuery).args
      = ["--endpoint=localhost:5158", "count"] := by
  refine ⟨?_, by decide, by decide⟩
  -- Two values of a test are compared, which can be computed.
  rw [TellsTruth]
  decide

end EngineClient.Predicate
