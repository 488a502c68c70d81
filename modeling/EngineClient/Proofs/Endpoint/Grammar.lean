import EngineClient.Endpoint
import EngineClient.Proofs.Text.Blank
import EngineClient.Proofs.Text.Split
import EngineClient.Proofs.Text.Unsigned

/-! Which texts are read as endpoints, and as which ones. -/

namespace EngineClient.Endpoint

open Text (Strips isBlank)

/-- The texts of a port; an empty one stands for the default. -/
inductive PortText : List Char → UInt16 → Prop
  | absent : PortText [] 5158
  | number {digits : List Char} {value : Nat} : Unsigned.Spells digits value → value ≤ 65535 →
      PortText digits (UInt16.ofNat value)

/-- The texts of an address, each with the host and the port that it gives. -/
inductive AddressText : List Char → List Char → UInt16 → Prop
  | bracketed {host : List Char} : ']' ∉ host → AddressText ('[' :: host ++ [']']) host 5158
  | bracketedPort {host digits : List Char} {port : UInt16} : ']' ∉ host → PortText digits port →
      AddressText ('[' :: host ++ ']' :: ':' :: digits) host port
  | colons {host : List Char} : host.head? ≠ some '[' → 2 ≤ host.count ':' →
      AddressText host host 5158
  | bare {host : List Char} : host.head? ≠ some '[' → ':' ∉ host → AddressText host host 5158
  | hostPort {host digits : List Char} {port : UInt16} : host.head? ≠ some '[' → ':' ∉ host →
      PortText digits port → AddressText (host ++ ':' :: digits) host port

/-- The texts of an address with a protocol behind the last slash, which is tcp in any letter case,
or without a slash. -/
inductive ProtocolText : List Char → List Char → Prop
  | absent {address : List Char} : '/' ∉ address → ProtocolText address address
  | tcp {address protocol : List Char} : '/' ∉ protocol →
      protocol.map Char.toLower = ['t', 'c', 'p'] → ProtocolText (address ++ '/' :: protocol) address

/-- An endpoint has a port, and a host or the default one where the host is empty. -/
structure At (endpoint : Endpoint) (host : List Char) (port : UInt16) : Prop where
  host : endpoint.host = if host = [] then "localhost" else String.ofList host
  port : endpoint.port = port

/-- The texts of an endpoint: blanks around them count for nothing. -/
def Spells (text : String) (endpoint : Endpoint) : Prop :=
  ∃ trimmed address host port, Strips isBlank text.toList trimmed ∧ ProtocolText trimmed address ∧
    AddressText address host port ∧ endpoint.At host port

section

variable {text address host digits rest : List Char} {port : UInt16} {endpoint : Endpoint}

/-- A port is read of its texts. -/
theorem readPort_eq_ok_iff : readPort digits = .ok port ↔ PortText digits port := by
  have most : Unsigned.max16 = 65535 := by decide
  unfold readPort
  -- No digits at all stand for the default, and any others are a number.
  cases digits with
  | nil =>
    refine ⟨fun read => ?_, fun spelled => ?_⟩
    · cases read
      exact .absent
    · cases spelled with
      | absent => rfl
      | number spells _ =>
        cases spells with
        -- A number has at least one digit.
        | bare digits => exact (digits.filled rfl).elim
  | cons char rest =>
    rw [if_neg (by simp)]
    constructor
    · -- What is read is the number that the digits spell, and it fits.
      intro read
      split at read
      · rename_i value parsed
        cases read
        obtain ⟨spells, fits⟩ := Unsigned.parseList_eq_ok_iff.mp parsed
        exact .number spells (most ▸ fits)
      · cases read
    · intro spelled
      cases spelled with
      | number spells fits =>
        rw [Unsigned.parseList_eq_ok_iff.mpr ⟨spells, most ▸ fits⟩]

/-- A port is written with digits and a plus sign. -/
theorem PortText.mem (spelled : PortText digits port) {char : Char} (member : char ∈ digits) :
    char = '+' ∨ char.isDigit = true := by
  cases spelled with
  | absent => cases member
  | number spells _ =>
    -- Only the first of them can be the sign.
    cases spells with
    | bare digits => exact .inr (digits.all char member)
    | signed digits => exact (List.mem_cons.mp member).imp id (digits.all char)

/-- What is neither a plus sign nor a digit does not stand in a port. -/
theorem PortText.not_mem (spelled : PortText digits port) {char : Char} (sign : char ≠ '+')
    (digit : char.isDigit = false) : char ∉ digits := by
  intro member
  -- A port is spelled with digits, and a sign in front of them.
  rcases spelled.mem member with same | shown
  · exact sign same
  · rw [digit] at shown
    cases shown

/-- An endpoint that is made of a host and a port has them. -/
theorem make_at (host : List Char) (port : UInt16) : (make (String.ofList host) port).At host port := by
  unfold make
  by_cases empty : host = []
  · rw [dif_pos (by rw [empty])]
    exact ⟨(if_pos empty).symm, rfl⟩
  · -- A host that is not empty is kept as it is.
    have filled : String.ofList host ≠ "" := fun none => empty (String.ofList_eq_empty_iff.mp none)
    rw [dif_neg filled]
    exact ⟨(if_neg empty).symm, rfl⟩

/-- There is one endpoint with a host and a port. -/
theorem At.eq {other : Endpoint} (one : endpoint.At host port) (second : other.At host port) :
    endpoint = other := by
  obtain ⟨named, placed⟩ := one
  rw [← second.host] at named
  rw [← second.port] at placed
  -- An endpoint has no other fields.
  cases endpoint
  cases other
  cases named
  cases placed
  rfl

/-- A host and the port behind it are read as they are spelled. -/
theorem withPort_eq_ok_iff :
    withPort host digits = .ok endpoint ↔
      ∃ port, PortText digits port ∧ endpoint.At host port := by
  unfold withPort
  constructor
  · intro read
    split at read
    · rename_i port found
      cases read
      exact ⟨port, readPort_eq_ok_iff.mp found, make_at host port⟩
    · cases read
  · -- An endpoint with this host and this port is the one that is made of them.
    rintro ⟨port, spelled, given⟩
    rw [readPort_eq_ok_iff.mpr spelled, given.eq (make_at host port)]

/-- Behind an opening bracket there are a host, the closing bracket and perhaps a port. -/
theorem addressText_bracket_iff :
    AddressText ('[' :: rest) host port ↔ ']' ∉ host ∧ ∃ tail, rest = host ++ ']' :: tail ∧
      (tail = [] ∧ port = 5158 ∨ ∃ digits, tail = ':' :: digits ∧ PortText digits port) := by
  constructor
  · intro spelled
    -- The text is kept apart from its shape, so that the cases can be told by its first character.
    generalize shape : '[' :: rest = text at spelled
    cases spelled with
    | bracketed absent => exact ⟨absent, [], List.tail_eq_of_cons_eq shape, .inl ⟨rfl, rfl⟩⟩
    | bracketedPort absent spelled =>
      exact ⟨absent, _, List.tail_eq_of_cons_eq shape, .inr ⟨_, rfl, spelled⟩⟩
    -- All other addresses begin with something else.
    | colons other _ => exact (other (shape ▸ rfl)).elim
    | bare other _ => exact (other (shape ▸ rfl)).elim
    | @hostPort host _ _ other _ _ =>
      cases host with
      | nil => cases shape
      | cons char host => exact (other (congrArg List.head? shape).symm).elim
  · rintro ⟨absent, tail, rfl, ⟨rfl, rfl⟩ | ⟨digits, rfl, spelled⟩⟩
    · exact .bracketed absent
    · exact .bracketedPort absent spelled

/-- What stands behind an opening bracket is read as it is spelled. -/
theorem readBracketed_eq_ok_iff :
    readBracketed rest = .ok endpoint ↔
      ∃ host port, AddressText ('[' :: rest) host port ∧ endpoint.At host port := by
  simp only [addressText_bracket_iff]
  constructor
  · intro read
    -- Reading splits at the first closing bracket, so none is in the host.
    unfold readBracketed at read
    split at read
    · -- There is no closing bracket.
      cases read
    · -- Nothing is behind it, and the port is the default one.
      rename_i host found
      cases read
      obtain ⟨rfl, absent⟩ := Text.splitFirst_eq_some_iff.mp found
      exact ⟨host, 5158, ⟨absent, [], rfl, .inl ⟨rfl, rfl⟩⟩, make_at host 5158⟩
    · -- A colon is behind it, and the rest is the port.
      rename_i host digits found
      obtain ⟨rfl, absent⟩ := Text.splitFirst_eq_some_iff.mp found
      obtain ⟨port, spelled, given⟩ := withPort_eq_ok_iff.mp read
      exact ⟨host, port, ⟨absent, _, rfl, .inr ⟨digits, rfl, spelled⟩⟩, given⟩
    · cases read
  · -- A host without the bracket makes the split unique.
    rintro ⟨host, port, ⟨absent, tail, rfl, ⟨rfl, rfl⟩ | ⟨digits, rfl, spelled⟩⟩, given⟩
    · rw [readBracketed, Text.splitFirst_append absent, given.eq (make_at host 5158)]
      rfl
    · rw [readBracketed, Text.splitFirst_append absent]
      exact withPort_eq_ok_iff.mpr ⟨port, spelled, given⟩

/-- An address that begins with no bracket has more than one colon, or a port behind the only one, or
no colon at all. -/
theorem addressText_iff_of_head (unbracketed : address.head? ≠ some '[') :
    AddressText address host port ↔
      if 1 < address.count ':' then host = address ∧ port = 5158
      else (':' ∉ address ∧ host = address ∧ port = 5158) ∨
        ∃ digits, address = host ++ ':' :: digits ∧ ':' ∉ host ∧ PortText digits port := by
  constructor
  · intro spelled
    -- The two bracketed forms are ruled out, and the others differ by their number of colons.
    cases spelled with
    | bracketed _ => exact (unbracketed rfl).elim
    | bracketedPort _ _ => exact (unbracketed rfl).elim
    | colons _ several => exact if_pos several ▸ ⟨rfl, rfl⟩
    | bare _ absent =>
      have none : List.count ':' address = 0 := List.count_eq_zero.mpr absent
      rw [if_neg (by omega)]
      exact .inl ⟨absent, rfl, rfl⟩
    | @hostPort _ digits _ _ absent spelled =>
      -- Neither a host nor a port has a colon in it, so the one between them is the only one.
      have before : List.count ':' host = 0 := List.count_eq_zero.mpr absent
      have behind : List.count ':' digits = 0 :=
        List.count_eq_zero.mpr (spelled.not_mem (by decide) (by decide))
      have one : List.count ':' (host ++ ':' :: digits) = 1 := by
        rw [List.count_append, List.count_cons_self, before, behind]
      rw [if_neg (by omega)]
      exact .inr ⟨digits, rfl, absent, spelled⟩
  · intro shape
    split at shape
    · rename_i several
      obtain ⟨rfl, rfl⟩ := shape
      exact .colons unbracketed several
    · rcases shape with ⟨absent, rfl, rfl⟩ | ⟨digits, rfl, absent, spelled⟩
      · exact .bare unbracketed absent
      · -- A bracket at the front of the host would be at the front of the address.
        refine .hostPort (fun begins => unbracketed ?_) absent spelled
        rw [List.head?_append, begins]
        rfl

/-- An address is read as it is spelled. -/
theorem readAddress_eq_ok_iff :
    readAddress address = .ok endpoint ↔
      ∃ host port, AddressText address host port ∧ endpoint.At host port := by
  unfold readAddress
  split
  · exact readBracketed_eq_ok_iff
  · -- Any other address is told by its colons.
    rename_i other
    have unbracketed : address.head? ≠ some '[' := by
      intro begins
      obtain ⟨rest, whole⟩ := List.head?_eq_some_iff.mp begins
      exact other rest whole
    simp only [addressText_iff_of_head unbracketed]
    split
    · -- Several colons are all part of the host.
      constructor
      · intro read
        cases read
        exact ⟨address, 5158, ⟨rfl, rfl⟩, make_at address 5158⟩
      · rintro ⟨host, port, ⟨rfl, rfl⟩, given⟩
        rw [given.eq (make_at host 5158)]
        rfl
    · constructor
      · -- At most one colon is there, and it splits the host from the port.
        intro read
        split at read
        · rename_i host digits found
          obtain ⟨whole, absent⟩ := Text.splitFirst_eq_some_iff.mp found
          obtain ⟨port, spelled, given⟩ := withPort_eq_ok_iff.mp read
          exact ⟨host, port, .inr ⟨digits, whole, absent, spelled⟩, given⟩
        · -- No colon is there, and the whole address is the host.
          rename_i found
          cases read
          exact ⟨address, 5158, .inl ⟨Text.splitFirst_eq_none_iff.mp found, rfl, rfl⟩,
            make_at address 5158⟩
      · rintro ⟨host, port, ⟨absent, rfl, rfl⟩ | ⟨digits, rfl, absent, spelled⟩, given⟩
        · rw [Text.splitFirst_eq_none_iff.mpr absent, given.eq (make_at host 5158)]
          rfl
        · rw [Text.splitFirst_append absent]
          exact withPort_eq_ok_iff.mpr ⟨port, spelled, given⟩

/-- The protocol behind an address is taken off as it is spelled. -/
theorem withoutProtocol_eq_ok_iff :
    withoutProtocol text = .ok address ↔ ProtocolText text address := by
  unfold withoutProtocol
  constructor
  · intro read
    -- The last slash, if there is one, has the protocol behind it.
    split at read
    · rename_i found
      cases read
      exact .absent (Text.splitLast_eq_none_iff.mp found)
    · rename_i before protocol found
      obtain ⟨rfl, absent⟩ := Text.splitLast_eq_some_iff.mp found
      split at read
      · rename_i named
        cases read
        exact .tcp absent named
      · cases read
  · intro spelled
    -- The slash of the spelling is the last one, as none is in the protocol.
    cases spelled with
    | absent absent => rw [Text.splitLast_eq_none_iff.mpr absent]
    | tcp absent named =>
      rw [Text.splitLast_append absent]
      exact if_pos named

/-- A text without blanks around it is read as it is spelled. -/
theorem read_eq_ok_iff :
    read text = .ok endpoint ↔ ∃ address host port,
      ProtocolText text address ∧ AddressText address host port ∧ endpoint.At host port := by
  unfold read
  constructor
  · -- The protocol is taken off first, and the address is what it leaves.
    intro found
    split at found
    · rename_i address taken
      obtain ⟨host, port, spelled, given⟩ := readAddress_eq_ok_iff.mp found
      exact ⟨address, host, port, withoutProtocol_eq_ok_iff.mp taken, spelled, given⟩
    · cases found
  · rintro ⟨address, host, port, taken, spelled, given⟩
    rw [withoutProtocol_eq_ok_iff.mpr taken]
    exact readAddress_eq_ok_iff.mpr ⟨host, port, spelled, given⟩

end

/-- The failure that is reported for a text that is no endpoint has the text in it. -/
theorem Fault.toError_eq (text : String) (fault : Fault) :
    (fault.toError text).kind = .usage ∧ (fault.toError text).input = some text := by
  cases fault <;> exact ⟨rfl, rfl⟩

/-- A text is read as an endpoint exactly if it spells it. -/
theorem parse_eq_ok_iff {text : String} {endpoint : Endpoint} :
    parse text = .ok endpoint ↔ Spells text endpoint := by
  have same : parse text = .ok endpoint ↔
      read (Text.trimList isBlank text.toList) = .ok endpoint := by
    unfold parse
    cases read (Text.trimList isBlank text.toList) <;> simp
  -- The text without blanks around it is unique.
  rw [same, read_eq_ok_iff]
  constructor
  · rintro ⟨address, host, port, spelled⟩
    exact ⟨_, address, host, port, Text.strips_iff.mpr rfl, spelled⟩
  · rintro ⟨trimmed, address, host, port, strips, spelled⟩
    rw [Text.strips_iff.mp strips]
    exact ⟨address, host, port, spelled⟩

/-- A text is read exactly if it spells an endpoint, and as that one. For every other text a failure
of usage is reported, with the text as it was given. -/
theorem parse_accepts (text : String) :
    (∀ endpoint, parse text = .ok endpoint ↔ Spells text endpoint) ∧
    ((¬∃ endpoint, Spells text endpoint) ↔
      ∃ error, parse text = .error error ∧ error.kind = .usage ∧ error.input = some text) := by
  refine ⟨fun endpoint => parse_eq_ok_iff, ?_⟩
  simp only [← parse_eq_ok_iff]
  -- A text is read, or the reason why it is not becomes the failure.
  unfold parse
  cases read (Text.trimList isBlank text.toList) with
  | ok endpoint => simp
  | error fault => simp [fault.toError_eq text]

end EngineClient.Endpoint
