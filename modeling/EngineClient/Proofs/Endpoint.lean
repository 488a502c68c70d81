import EngineClient.Endpoint
import EngineClient.Proofs.Text.Blank
import EngineClient.Proofs.Text.Split

/-! The text of an endpoint tells its host and its port. -/

namespace EngineClient

namespace Endpoint

/-- The host that stands before a port, taken out of its brackets where it holds a colon. -/
def shownHost (shown : List Char) : List Char :=
  if ':' ∈ shown then shown.tail.dropLast else shown

/-- The endpoint that a text shows: its last colon stands before the port. -/
def ofDisplay? (text : List Char) : Option Endpoint :=
  (Text.splitLast ':' text).map fun (shown, digits) =>
    make (String.ofList (shownHost shown)) (UInt16.ofNat (Nat.ofDigitChars 10 digits 0))

/-- An endpoint is made of its host and its port. -/
theorem make_host (endpoint : Endpoint) : make endpoint.host endpoint.port = endpoint :=
  dif_neg endpoint.named

/-- A port is written with digits alone. -/
theorem colon_not_mem_digits (value : Nat) : ':' ∉ Nat.toDigits 10 value :=
  Text.not_mem_toDigits rfl value

/-- A host with a colon is shown between brackets, with a colon and the port behind them. -/
theorem toList_display_bracketed {endpoint : Endpoint} (colon : ':' ∈ endpoint.host.toList) :
    endpoint.display.toList
      = '[' :: endpoint.host.toList ++ ']' :: ':' :: Nat.toDigits 10 endpoint.port.toNat := by
  have holds : endpoint.host.toList.contains ':' = true := List.contains_iff_mem.mpr colon
  have digits : (toString endpoint.port.toNat).toList = Nat.toDigits 10 endpoint.port.toNat := by
    rw [Nat.toString_eq_repr, Nat.toList_repr]
  -- The test that is made of the host is whether it has a colon.
  unfold display
  rw [if_pos holds]
  simp only [String.toList_append, digits]
  simp

/-- A host without a colon is shown as it is, with a colon and the port behind it. -/
theorem toList_display_bare {endpoint : Endpoint} (bare : ':' ∉ endpoint.host.toList) :
    endpoint.display.toList
      = endpoint.host.toList ++ ':' :: Nat.toDigits 10 endpoint.port.toNat := by
  have lacks : ¬endpoint.host.toList.contains ':' = true := mt List.contains_iff_mem.mp bare
  have digits : (toString endpoint.port.toNat).toList = Nat.toDigits 10 endpoint.port.toNat := by
    rw [Nat.toString_eq_repr, Nat.toList_repr]
  -- A host without a colon needs no brackets.
  unfold display
  rw [if_neg lacks]
  simp only [String.toList_append, digits]
  simp

/-- The host as it is shown, with a colon and the port behind it. -/
theorem toList_display (endpoint : Endpoint) : ∃ shown,
    endpoint.display.toList = shown ++ ':' :: Nat.toDigits 10 endpoint.port.toNat ∧
      shownHost shown = endpoint.host.toList := by
  by_cases colon : ':' ∈ endpoint.host.toList
  · -- The brackets around the host are the first and the last character of what is shown.
    refine ⟨'[' :: endpoint.host.toList ++ [']'], ?_, ?_⟩
    · rw [toList_display_bracketed colon, List.append_assoc, List.singleton_append]
    · have holds : ':' ∈ '[' :: endpoint.host.toList ++ [']'] :=
        List.mem_append_left _ (List.mem_cons_of_mem _ colon)
      rw [shownHost, if_pos holds, List.cons_append, List.tail_cons, List.dropLast_concat]
  · -- Without a colon the host is shown as it is.
    exact ⟨endpoint.host.toList, toList_display_bare colon, if_neg colon⟩

/-- The text of an endpoint shows it. -/
theorem ofDisplay?_display (endpoint : Endpoint) :
    ofDisplay? endpoint.display.toList = some endpoint := by
  obtain ⟨shown, text, host⟩ := toList_display endpoint
  -- The digits hold no colon, so the colon before them is the last one.
  have split := Text.splitLast_append (colon_not_mem_digits endpoint.port.toNat) shown
  have port : UInt16.ofNat (Nat.ofDigitChars 10 (Nat.toDigits 10 endpoint.port.toNat) 0)
      = endpoint.port := by
    rw [Nat.ofDigitChars_ten_toDigits, UInt16.ofNat_toNat]
  rw [ofDisplay?, text, split, Option.map_some]
  simp only [host, port, String.ofList_toList, make_host]

end Endpoint

end EngineClient
