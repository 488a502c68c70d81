import EngineClient.Engine.Exit

/-! Which ends of an engine are failures, and of what kind. -/

namespace EngineClient

/-- Adding error output changes no kind. -/
@[simp] theorem Error.withStderr_kind (error : Error) (text : String) :
    (error.withStderr text).kind = error.kind := by
  unfold Error.withStderr
  split <;> rfl

/-- Nor does it change the input. -/
@[simp] theorem Error.withStderr_input (error : Error) (text : String) :
    (error.withStderr text).input = error.input := by
  unfold Error.withStderr
  split <;> rfl

namespace ExitReport

/-- An engine's end is no failure exactly if its code is zero. -/
theorem check_eq_ok_iff (report : ExitReport) (invocation : Invocation) :
    report.check invocation = .ok () ↔ report.code = some 0 := by
  simp [check, isSuccess]

/-- Any other code is a failure, and what the engine says of its connection decides its kind. -/
theorem check_failed {report : ExitReport} (failed : report.code ≠ some 0)
    (invocation : Invocation) :
    ∃ error, report.check invocation = .error error ∧
      error.kind = if tellsConnectFailure report.stderr then .unreachable else .execution := by
  refine ⟨_, if_neg (by simpa [isSuccess] using failed), ?_⟩
  rw [Error.withStderr_kind]

/-- A failed end has another code, and is one of an engine that reached no node or that failed
otherwise. -/
theorem check_error {report : ExitReport} {invocation : Invocation} {error : Error}
    (checked : report.check invocation = .error error) :
    report.code ≠ some 0 ∧ (error.kind = .unreachable ∨ error.kind = .execution) := by
  -- Code zero would have passed.
  have failed : report.code ≠ some 0 := by
    intro zero
    rw [(check_eq_ok_iff report invocation).mpr zero] at checked
    cases checked
  obtain ⟨other, known, kind⟩ := check_failed failed invocation
  cases known.symm.trans checked
  refine ⟨failed, ?_⟩
  rw [kind]
  split
  · exact .inl rfl
  · exact .inr rfl

end ExitReport

end EngineClient
