import EngineClient.Arrow.Frame
import EngineClient.Proofs.Engine.Source

/-! Units of output are cut at the same places however the output arrives. -/

namespace EngineClient.Arrow.Frame

/-- A reading that makes of some bytes a result, and leaves others of them, however they arrive. -/
def Yields {α : Type} (reading : Reading α) (bytes : Bytes) (result : Except Error α)
    (rest : Bytes) : Prop :=
  ∀ source : Source, source.Holds bytes →
    ∃ left, reading source = some (result, left) ∧ left.Holds rest

/-- A reading that makes something of all bytes, and asks for nothing else. -/
def Determined {α : Type} (reading : Reading α) : Prop :=
  ∀ bytes, ∃ result rest, Yields reading bytes result rest

/-- A value at hand leaves all bytes. -/
theorem yields_pure {α : Type} (value : α) (bytes : Bytes) :
    Yields (pure value) bytes (.ok value) bytes :=
  fun source holds => ⟨source, rfl, holds⟩

/-- A failure leaves all bytes. -/
theorem yields_throw {α : Type} (error : Error) (bytes : Bytes) :
    Yields (throw error : Reading α) bytes (.error error) bytes :=
  fun source holds => ⟨source, rfl, holds⟩

/-- One reading after another begins where the first has stopped. -/
theorem yields_bind {α β : Type} {first : Reading α} {next : α → Reading β}
    {bytes middle rest : Bytes} {value : α} {result : Except Error β}
    (before : Yields first bytes (.ok value) middle)
    (behind : Yields (next value) middle result rest) :
    Yields (first >>= next) bytes result rest := by
  -- Whichever way the bytes arrive, the first reading leaves a source that holds the middle.
  intro source holds
  obtain ⟨left, ran, leftHolds⟩ := before source holds
  obtain ⟨last, continued, lastHolds⟩ := behind left leftHolds
  refine ⟨last, ?_, lastHolds⟩
  simpa [bind, ExceptT.bind, ExceptT.mk, StateT.bind, ran, ExceptT.bindCont] using continued

/-- Nothing is read after a failure. -/
theorem yields_bind_error {α β : Type} {first : Reading α} {next : α → Reading β}
    {bytes rest : Bytes} {error : Error} (failed : Yields first bytes (.error error) rest) :
    Yields (first >>= next) bytes (.error error) rest := by
  intro source holds
  obtain ⟨left, ran, leftHolds⟩ := failed source holds
  -- Behind a failure nothing more is read.
  refine ⟨left, ?_, leftHolds⟩
  simp only [bind, ExceptT.bind, ExceptT.mk, StateT.bind, ran, Option.bind_some]
  rfl

/-- Changing what is read changes no failure, and takes no bytes. -/
theorem yields_map {α β : Type} {reading : Reading α} {bytes rest : Bytes}
    {result : Except Error α} (yields : Yields reading bytes result rest) (change : α → β) :
    Yields (do return change (← reading)) bytes (result.map change) rest := by
  cases result with
  | error error => exact yields_bind_error yields
  | ok value => exact yields_bind yields (yields_pure _ rest)

/-- Filling brings the first bytes, or all where there are fewer. -/
theorem yields_fill (count : Nat) (bytes : Bytes) :
    Yields (fill count) bytes (.ok (bytes.take count)) (bytes.drop count) := by
  intro source holds
  obtain ⟨rest, taken, left⟩ := source.take_holds holds count
  exact ⟨rest, by simp only [fill, taken], left⟩

/-- What is made of a unit depends on the bytes alone. -/
theorem composes_determined : Composes Determined where
  pure value := fun bytes => ⟨_, _, yields_pure value bytes⟩
  throw message raw := fun bytes => ⟨_, _, yields_throw (.ofRaw message raw) bytes⟩
  fill count := fun bytes => ⟨_, _, yields_fill count bytes⟩
  bind before behind := by
    intro bytes
    obtain ⟨result, middle, ran⟩ := before bytes
    cases result with
    -- A failure of the first is the result, and the second is not read at all.
    | error error => exact ⟨_, _, yields_bind_error ran⟩
    | ok value =>
      obtain ⟨last, rest, continued⟩ := behind value middle
      exact ⟨last, rest, yields_bind ran continued⟩

/-- A reading that comes to an answer where nothing hangs, with no failure but one of output. -/
def Answers {α : Type} (reading : Reading α) : Prop :=
  ∀ source : Source, source.IsLive → Answered Source.IsLive Error.IsOfOutput (reading source)

/-- Reading a unit comes to an answer where nothing hangs. -/
theorem composes_answers : Composes Answers where
  pure value := fun source live => .ok live
  throw message raw := fun source live => .error (Error.isOfOutput_ofRaw message raw) live
  fill count := by
    -- What fails is the reading of the output itself, under a message of its own.
    intro source live
    have answered := Source.take_answered live count
    unfold fill
    generalize source.take count = result at answered
    cases answered with
    | ok kept => exact .ok kept
    | error allowed kept => exact .error (Error.isOfOutput_ofRead _) kept
  bind {_ _ first _} before behind := by
    intro source live
    have answered := before source live
    simp only [bind, ExceptT.bind, ExceptT.mk, StateT.bind]
    generalize first source = result at answered
    -- A failure of the first is the answer; behind a success the second answers.
    cases answered with
    | ok kept => exact behind _ _ kept
    | error allowed kept => exact .error allowed kept

/-- At the end of the output there is no unit. -/
theorem yields_read_nil [Platform] : Yields read [] (.ok none) [] :=
  yields_bind (yields_fill 4 []) (yields_pure none [])

end EngineClient.Arrow.Frame
