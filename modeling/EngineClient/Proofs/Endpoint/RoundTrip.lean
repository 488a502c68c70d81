import EngineClient.Proofs.Endpoint
import EngineClient.Proofs.Endpoint.Grammar

/-! Which endpoints are read back from the text that shows them. -/

namespace EngineClient.Endpoint

open Text (Strips isBlank)

/-- The hosts that are read back, whatever the port is: without a slash, and with a colon also
without a closing bracket, or without a colon but with a beginning that is neither an opening bracket
nor blank. -/
structure ReadsBack (host : List Char) : Prop where
  slash : '/' ∉ host
  bracket : ':' ∈ host → ']' ∉ host
  first : ':' ∉ host → host.head? ≠ some '[' ∧ ∀ char, host.head? = some char → isBlank char = false

/-- A port is shown as one of its texts. -/
theorem portText_toDigits (port : UInt16) : PortText (Nat.toDigits 10 port.toNat) port := by
  have digits : Unsigned.IsDigits (Nat.toDigits 10 port.toNat) port.toNat :=
    ⟨Nat.toDigits_ne_nil, fun char member => Text.isDigit_toDigits char member,
      Nat.ofDigitChars_ten_toDigits⟩
  have fits : port.toNat ≤ 65535 := Nat.le_of_lt_succ port.toNat_lt
  -- The digits stand for the number, which fits a port.
  have spelled := PortText.number (.bare digits) fits
  rwa [UInt16.ofNat_toNat] at spelled

/-- A digit has no letter case. -/
theorem toLower_of_isDigit {char : Char} (digit : char.isDigit = true) : char.toLower = char := by
  have most : char.toNat ≤ '9'.toNat := (Char.isDigit_iff_toNat.mp digit).2
  -- Upper-case letters stand behind the digits.
  refine dif_neg fun upper => ?_
  have least : 'A'.toNat ≤ char.toNat := UInt32.le_iff_toNat_le.mp upper.1
  exact absurd (Nat.le_trans least most) (by decide)

section

variable {shown front trimmed address host : List Char} {port shownPort : UInt16}

/-- What shows a port ends with a digit. -/
theorem getLast?_shown (shown : List Char) (port : UInt16) :
    ∃ last, (shown ++ ':' :: Nat.toDigits 10 port.toNat).getLast? = some last ∧
      last.isDigit = true := by
  have filled : Nat.toDigits 10 port.toNat ≠ [] := Nat.toDigits_ne_nil
  refine ⟨_, ?_, Text.isDigit_toDigits _ (List.getLast_mem filled)⟩
  -- The last character of the whole is that of the digits, of which there is one at least.
  rw [List.getLast?_append_of_ne_nil _ (List.cons_ne_nil _ _), List.getLast?_cons,
    List.getLast?_eq_getLast_of_ne_nil filled]
  rfl

/-- Blanks are trimmed only off the front of what shows a port. -/
theorem strips_shown (front : List Char) (port : UInt16) :
    Strips isBlank (front ++ ':' :: Nat.toDigits 10 port.toNat)
      (front.dropWhile isBlank ++ ':' :: Nat.toDigits 10 port.toNat) where
  around := by
    -- The blanks in front are those that are dropped, and none are dropped behind.
    refine ⟨front.takeWhile isBlank, [], ?_, fun char member => List.mem_takeWhile_imp member,
      List.forall_mem_nil _⟩
    rw [List.append_nil, ← List.append_assoc, List.takeWhile_append_dropWhile]
  trimmed := by
    constructor
    · intro char head
      rw [List.head?_append] at head
      -- The first character is one of the front that is no blank, or the colon.
      cases rest : (front.dropWhile isBlank).head? with
      | none =>
        rw [rest] at head
        cases head
        decide
      | some first =>
        rw [rest] at head
        cases head
        exact Text.head_dropWhile rest
    · intro char last
      -- The last one is a digit.
      obtain ⟨digit, same, shown⟩ := getLast?_shown (front.dropWhile isBlank) port
      rw [same] at last
      cases last
      exact Text.isBlank_of_isDigit shown

/-- There is no protocol behind a port. -/
theorem protocolText_shown_iff :
    ProtocolText (shown ++ ':' :: Nat.toDigits 10 port.toNat) address ↔
      '/' ∉ shown ++ ':' :: Nat.toDigits 10 port.toNat ∧
        address = shown ++ ':' :: Nat.toDigits 10 port.toNat := by
  refine ⟨fun spelled => ?_, fun ⟨absent, same⟩ => by subst same; exact .absent absent⟩
  obtain ⟨last, ends, digit⟩ := getLast?_shown shown port
  generalize shown ++ ':' :: Nat.toDigits 10 port.toNat = text at spelled ends
  cases spelled with
  | absent absent => exact ⟨absent, rfl⟩
  | @tcp _ protocol _ named =>
    -- The name of the protocol would end with a digit.
    have filled : protocol ≠ [] := by
      rintro rfl
      cases named
    have lower : (protocol.map Char.toLower).getLast? = some last.toLower := by
      rw [List.append_cons, List.getLast?_append_of_ne_nil _ filled] at ends
      rw [List.getLast?_map, ends, Option.map_some]
    rw [named, toLower_of_isDigit digit] at lower
    cases lower
    cases digit

/-- Where an endpoint is shown, its port is behind the last colon, so that an address which stands
there has a host in brackets, several colons or a host without any. -/
theorem addressText_shown (spelled : AddressText (shown ++ ':' :: Nat.toDigits 10 port.toNat) host
      shownPort) :
    (shown = '[' :: host ++ [']'] ∧ ']' ∉ host) ∨
    (shown.head? ≠ some '[' ∧ 0 < shown.count ':') ∨
    (shown.head? ≠ some '[' ∧ ':' ∉ host ∧ shown = host) := by
  have digits : ':' ∉ Nat.toDigits 10 port.toNat := colon_not_mem_digits port.toNat
  obtain ⟨last, ends, digit⟩ := getLast?_shown shown port
  -- The port adds one colon to those before it.
  have one : List.count ':' (shown ++ ':' :: Nat.toDigits 10 port.toNat)
      = shown.count ':' + 1 := by
    rw [List.count_append, List.count_cons_self, List.count_eq_zero.mpr digits]
  have begins : shown.head? = some '[' →
      (shown ++ ':' :: Nat.toDigits 10 port.toNat).head? = some '[' := by
    intro bracket
    rw [List.head?_append, bracket]
    rfl
  have split := Text.splitLast_append digits shown
  generalize shown ++ ':' :: Nat.toDigits 10 port.toNat = text at spelled ends one begins split
  cases spelled with
  | bracketed absent =>
    -- The last character would be the bracket and not a digit.
    rw [List.getLast?_concat] at ends
    cases ends
    cases digit
  | @bracketedPort _ behind _ absent spelled =>
    -- The colon behind the bracket is the last one, so the host and the port are those shown.
    have same := Text.splitLast_append (spelled.not_mem (by decide) (by decide) : ':' ∉ behind)
      ('[' :: host ++ [']'])
    rw [List.append_assoc, List.singleton_append, split] at same
    cases same
    exact .inl ⟨rfl, absent⟩
  | colons other several => exact .inr (.inl ⟨fun bracket => other (begins bracket), by omega⟩)
  | bare other absent =>
    -- There is a colon, namely the one before the port.
    rw [List.count_eq_zero.mpr absent] at one
    omega
  | @hostPort _ behind _ other absent spelled =>
    -- Both ports are behind the last colon, so what is before it is the same.
    have same := Text.splitLast_append (spelled.not_mem (by decide) (by decide) : ':' ∉ behind) host
    rw [split] at same
    cases same
    exact .inr (.inr ⟨other, absent, rfl⟩)

end

variable {endpoint other : Endpoint}

/-- Nothing is trimmed off a host that is shown in brackets. -/
theorem strips_display_bracketed (colon : ':' ∈ endpoint.host.toList) :
    Strips isBlank endpoint.display.toList
      (('[' :: endpoint.host.toList ++ [']']) ++ ':' :: Nat.toDigits 10 endpoint.port.toNat) := by
  have strips := strips_shown ('[' :: endpoint.host.toList ++ [']']) endpoint.port
  -- The first character is the bracket, which is no blank.
  have bracket : isBlank '[' = false := by decide
  rw [List.cons_append, List.dropWhile_cons, bracket, if_neg Bool.false_ne_true] at strips
  rwa [toList_display_bracketed colon, List.append_cons]

/-- A host that is shown as it is loses the blanks at its beginning. -/
theorem strips_display_bare (bare : ':' ∉ endpoint.host.toList) :
    Strips isBlank endpoint.display.toList
      (endpoint.host.toList.dropWhile isBlank ++ ':' :: Nat.toDigits 10 endpoint.port.toNat) := by
  rw [toList_display_bare bare]
  exact strips_shown endpoint.host.toList endpoint.port

/-- An endpoint whose host is so is read back. -/
theorem spells_display (reads : ReadsBack endpoint.host.toList) :
    Spells endpoint.display endpoint := by
  have given : endpoint.At endpoint.host.toList endpoint.port :=
    ⟨by rw [String.ofList_toList, if_neg (mt String.toList_eq_nil_iff.mp endpoint.named)], rfl⟩
  have port := portText_toDigits endpoint.port
  have digits : '/' ∉ Nat.toDigits 10 endpoint.port.toNat := port.not_mem (by decide) (by decide)
  -- A host with a colon is shown in brackets, and any other one as it is.
  by_cases colon : ':' ∈ endpoint.host.toList
  · have address := AddressText.bracketedPort (reads.bracket colon) port
    rw [List.append_cons] at address
    refine ⟨_, _, _, _, strips_display_bracketed colon, protocolText_shown_iff.mpr ⟨?_, rfl⟩,
      address, given⟩
    -- Neither the host nor the port has a slash in it.
    simp [reads.slash, digits]
  · obtain ⟨unbracketed, first⟩ := reads.first colon
    have strips := strips_display_bare colon
    -- Nothing is trimmed off the host.
    rw [Text.dropWhile_of_first first] at strips
    refine ⟨_, _, _, _, strips, protocolText_shown_iff.mpr ⟨?_, rfl⟩,
      .hostPort unbracketed colon port, given⟩
    simp [reads.slash, digits]

/-- The default host is not empty, and nothing is trimmed off it. -/
theorem dropWhile_defaultHost :
    "localhost".toList.dropWhile isBlank = "localhost".toList := by
  decide

/-- A host that is trimmed at its beginning and still given has nothing to trim there. -/
theorem host_of_at {port : UInt16} (same : other.host = endpoint.host)
    (given : other.At (endpoint.host.toList.dropWhile isBlank) port) :
    endpoint.host.toList.dropWhile isBlank = endpoint.host.toList := by
  have host := given.host
  rw [same] at host
  -- If nothing were left, the host would be the default one.
  split at host
  · rw [host, dropWhile_defaultHost]
  · have listed := congrArg String.toList host
    rw [String.toList_ofList] at listed
    exact listed.symm

/-- No host is given by what is left of it in brackets. -/
theorem not_bracketed_of_at {host : List Char} {port : UInt16} (same : other.host = endpoint.host)
    (given : other.At host port) :
    endpoint.host.toList.dropWhile isBlank ≠ '[' :: host ++ [']'] := by
  intro bracketed
  have named := given.host
  rw [same] at named
  split at named
  · -- The host would be the default one, which begins with no bracket.
    rename_i empty
    rw [named, empty, dropWhile_defaultHost] at bracketed
    exact absurd bracketed (by decide)
  · -- The brackets make it longer than the host.
    have shorter := List.length_dropWhile_le isBlank endpoint.host.toList
    rw [bracketed, named, String.toList_ofList] at shorter
    simp only [List.cons_append, List.length_cons, List.length_append, List.length_nil] at shorter
    omega

/-- An endpoint whose host is read of the text that shows it has such a host. -/
theorem readsBack_of_spells (spells : Spells endpoint.display other)
    (same : other.host = endpoint.host) : ReadsBack endpoint.host.toList := by
  obtain ⟨trimmed, address, host, port, strips, protocol, spelled, given⟩ := spells
  by_cases colon : ':' ∈ endpoint.host.toList
  · -- The text is trimmed in one way only.
    have unique := strips.eq (strips_display_bracketed colon)
    subst unique
    obtain ⟨slash, rfl⟩ := protocolText_shown_iff.mp protocol
    rcases addressText_shown spelled with ⟨bracketed, absent⟩ | ⟨other, _⟩ | ⟨other, _, _⟩
    · -- The host that is read is all that stands between the brackets.
      have whole : endpoint.host.toList = host :=
        List.append_cancel_right (List.tail_eq_of_cons_eq bracketed)
      rw [← whole] at absent
      refine ⟨fun present => slash ?_, fun _ => absent, fun bare => (bare colon).elim⟩
      exact List.mem_append_left _ (List.mem_cons_of_mem _ (List.mem_append_left _ present))
    · -- What is shown begins with the bracket.
      exact (other rfl).elim
    · exact (other rfl).elim
  · have unique := strips.eq (strips_display_bare colon)
    subst unique
    obtain ⟨slash, rfl⟩ := protocolText_shown_iff.mp protocol
    -- The host is shown bare, and it is read of what trimming leaves of it.
    rcases addressText_shown spelled with ⟨bracketed, _⟩ | ⟨_, several⟩ | ⟨unbracketed, _, rfl⟩
    · exact (not_bracketed_of_at same given bracketed).elim
    · -- There is no colon in the host, and so none in what is left of it.
      exact (colon ((List.dropWhile_suffix _).subset (List.count_pos_iff.mp several))).elim
    · -- Nothing was trimmed, so the host has no blank in front.
      have front := host_of_at same given
      rw [front] at slash unbracketed
      refine ⟨fun present => slash (List.mem_append_left _ present),
        fun present => (colon present).elim, fun _ => ⟨unbracketed, fun char head => ?_⟩⟩
      rw [← front] at head
      exact Text.head_dropWhile head

/-- An endpoint is read back from the text that shows it exactly if its host is so. In all other cases
the text is refused or read as an endpoint with another host. -/
theorem parse_display_iff (endpoint : Endpoint) :
    (parse endpoint.display = .ok endpoint ↔ ReadsBack endpoint.host.toList) ∧
    (¬ReadsBack endpoint.host.toList →
      (∃ error, parse endpoint.display = .error error) ∨
        ∃ other, parse endpoint.display = .ok other ∧ other.host ≠ endpoint.host) := by
  refine ⟨⟨fun read => ?_, fun reads => parse_eq_ok_iff.mpr (spells_display reads)⟩,
    fun fails => ?_⟩
  · exact readsBack_of_spells (parse_eq_ok_iff.mp read) rfl
  · -- An endpoint with the same host would make it one that is read back.
    cases read : parse endpoint.display with
    | error error => exact .inl ⟨error, rfl⟩
    | ok other =>
      exact .inr ⟨other, rfl, fun same => fails (readsBack_of_spells (parse_eq_ok_iff.mp read) same)⟩

end EngineClient.Endpoint
