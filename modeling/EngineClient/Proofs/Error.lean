import EngineClient.Error
import EngineClient.Proofs.Text.Utf8.Lossy
import EngineClient.Proofs.Text.Utf8.Strict

/-! What an error shows of a unit at fault is the unit's beginning. -/

namespace EngineClient.Error

/-- A unit that is not too long is shown as it is read. -/
theorem preview_short {raw : Bytes} (short : raw.length ≤ previewLength) :
    preview raw = Utf8.decodeLossy raw := by
  simp only [preview, List.take_of_length_le short, if_neg (Nat.not_lt.mpr short)]

/-- What is shown of a longer unit is told to be a part of it. -/
theorem preview_long {raw : Bytes} (long : previewLength < raw.length) :
    preview raw = Utf8.decodeLossy (raw.take previewLength)
      ++ "... (" ++ toString raw.length ++ " bytes)" := by
  simp only [preview, if_pos long]

/-- Units that begin alike and are as long as each other are shown alike. -/
theorem preview_alike {raw other : Bytes} (alike : raw.take previewLength = other.take previewLength)
    (length : raw.length = other.length) : preview raw = preview other := by
  simp only [preview, alike, length]

/-- An error shows a unit that is a text as this text, if it has no more than 256 bytes. Of a longer
one it shows the longest front of whole characters that fits into 256 bytes, one replacement where
the cut behind these bytes splits a character and none where it does not, and how long the unit is.
Whatever the unit is, what is shown of it, on its own and within the error, hangs on its first 256
bytes and its length only. -/
theorem preview_tells_beginning (error : Error) :
    (∀ (raw : Bytes) (text : String), error.raw = some raw → Utf8.decode? raw = some text →
      (raw.length ≤ 256 → error.rawPreview = some text) ∧
      (256 < raw.length → ∃ front, Utf8.Fits 256 text.toList front ∧
        (Utf8.Splits 256 text.toList → error.rawPreview
          = some (String.ofList front ++ "\uFFFD" ++ "... (" ++ toString raw.length ++ " bytes)")) ∧
        (¬Utf8.Splits 256 text.toList → error.rawPreview
          = some (String.ofList front ++ "... (" ++ toString raw.length ++ " bytes)")))) ∧
    (∀ raw other : Bytes, raw.take 256 = other.take 256 → raw.length = other.length →
      ({ error with raw := some raw } : Error).rawPreview
        = ({ error with raw := some other } : Error).rawPreview ∧
      ({ error with raw := some raw } : Error).display
        = ({ error with raw := some other } : Error).display) := by
  refine ⟨fun raw text held whole => ?_, fun raw other alike length => ?_⟩
  · have shown : error.rawPreview = some (preview raw) := by rw [rawPreview, held, Option.map_some]
    -- A unit that is a text spells it, so that the text can be cut in its place.
    obtain rfl := Utf8.decode?_eq_some_iff.mp whole
    refine ⟨fun short => ?_, fun long => ?_⟩
    · rw [shown, preview_short short, Utf8.decodeLossy_spell, String.ofList_toList]
    · obtain ⟨front, fits, split, unsplit⟩ := Utf8.decodeLossy_take long
      refine ⟨front, fits, fun splits => ?_, fun whole => ?_⟩
      · rw [shown, preview_long long, previewLength, split splits, String.ofList_append]
        rfl
      · rw [shown, preview_long long, previewLength, unsplit whole]
  · have same : preview raw = preview other := preview_alike alike length
    have shown : ({ error with raw := some raw } : Error).rawPreview
        = ({ error with raw := some other } : Error).rawPreview := congrArg some same
    refine ⟨shown, ?_⟩
    -- The unit is in the display only as what is shown of it.
    simp only [display, shown]

end EngineClient.Error
