import EngineClient.Proofs.Address.Groups
import EngineClient.Proofs.Json.Numeral
import EngineClient.Proofs.Text.Blank
import EngineClient.Proofs.Text.Pieces
import EngineClient.Proofs.Text.Split

/-! Addresses and ranges of them are read back from their texts in the usual notation. -/

namespace EngineClient

open Text (pieces splitGap AreApart)

namespace Address

/-- Reads a number below 256 in decimal, without zeros in front. -/
def readByte? (text : List Char) : Option UInt8 :=
  let value := Nat.ofDigitChars 10 text 0
  if text ≠ [] ∧ text.all Char.isDigit ∧ (text.head? = some '0' → text = ['0']) ∧ value < 256 then
    some (UInt8.ofNat value)
  else none

/-- Reads a number of one to four hexadecimal digits. -/
def readGroup? (text : List Char) : Option Nat :=
  if text ≠ [] ∧ text.length ≤ 4 then
    text.foldlM (fun read char => (Bytes.hexValue? char).map (16 * read + ·)) 0
  else none

/-- Reads four bytes with dots between them. -/
def readFour? (text : List Char) : Option Bytes := do
  let bytes ← (text.splitOn '.').mapM readByte?
  guard (bytes.length = 4)
  return bytes

/-- Reads groups, of which the last two may be written as four bytes. -/
def readGroups? : List (List Char) → Option (List Nat)
  | [] => some []
  | [piece] =>
    if '.' ∈ piece then (readFour? piece).map groups else (readGroup? piece).map fun group => [group]
  | piece :: rest => do return (← readGroup? piece) :: (← readGroups? rest)

/-- Reads an address in the notation for sixteen bytes: eight groups, or less with a gap that stands
for groups of zeros. -/
def readLong? (text : List Char) : Option Address :=
  match splitGap text with
  | none => do ofBytes? (ofGroups (← readGroups? (pieces text)))
  | some (before, behind) => do
    let front ← (pieces before).mapM readGroup?
    let back ← readGroups? (pieces behind)
    guard (front.length + back.length < 8)
    ofBytes? (ofGroups (front ++ List.replicate (8 - (front.length + back.length)) 0 ++ back))

/-- Reads an address; one without colons is of four bytes, which are stored behind the lead. -/
def read? (text : List Char) : Option Address :=
  if ':' ∈ text then readLong? text
  else do ofBytes? (mappedLead ++ (← readFour? text))

end Address

/-- Reads an address and a number of bits behind a slash; those of an address of four bytes are
counted without the lead. -/
def Subnet.read? (text : List Char) : Option Subnet := do
  let (shown, digits) ← Text.splitLast '/' text
  let address ← Address.read? shown
  let number ← Address.readByte? digits
  if ':' ∈ shown then return ⟨address, number⟩
  else
    guard (number.toNat + 96 < 256)
    return ⟨address, UInt8.ofNat (number.toNat + 96)⟩

namespace Address

/-- Digits are written with the characters of digits. -/
theorem exists_digitChar {base value : Nat} (wide : 1 < base) :
    ∀ char ∈ Nat.toDigits base value, ∃ digit < base, char = Nat.digitChar digit := by
  -- The induction is on the digits, the last of which is taken off.
  induction value using Nat.base_induction base wide with
  | single value small =>
    rw [Nat.toDigits_of_lt_base small]
    intro char member
    exact ⟨value, small, List.mem_singleton.mp member⟩
  | digit value last small positive ih =>
    rw [← Nat.toDigits_append_toDigits wide positive small, Nat.toDigits_of_lt_base small]
    intro char member
    -- A digit is among the others or the last one.
    rcases List.mem_append.mp member with front | behind
    · exact ih char front
    · exact ⟨last, small, List.mem_singleton.mp behind⟩

/-- A byte is read back. -/
theorem readByte?_toDigits (byte : UInt8) :
    readByte? (Nat.toDigits 10 byte.toNat) = some byte := by
  -- Only the digits of zero begin with a zero.
  have lone : (Nat.toDigits 10 byte.toNat).head? = some '0' → Nat.toDigits 10 byte.toNat = ['0'] := by
    rcases Nat.eq_zero_or_pos byte.toNat with none | some
    · rw [none]
      exact fun _ => rfl
    · obtain ⟨first, others, digits, nonzero⟩ := Json.toDigits_head some
      rw [digits]
      intro zero
      exact (nonzero (Option.some.inj zero)).elim
  have digits : (Nat.toDigits 10 byte.toNat).all Char.isDigit = true :=
    List.all_eq_true.mpr Text.isDigit_toDigits
  -- The digits are there, are digits, begin with no needless zero and make a byte.
  rw [readByte?, Nat.ofDigitChars_ten_toDigits,
    if_pos ⟨Nat.toDigits_ne_nil, digits, lone, byte.toNat_lt⟩, UInt8.ofNat_toNat]

/-- A hexadecimal digit is read back. -/
theorem hexValue?_digitChar {digit : Nat} (small : digit < 16) :
    Bytes.hexValue? digit.digitChar = some digit := by
  have all : ∀ digit : Fin 16, Bytes.hexValue? (Nat.digitChar digit) = some digit.val := by decide
  exact all ⟨digit, small⟩

/-- A group of sixteen bits is read back. -/
theorem readGroup?_toDigits {group : Nat} (fits : group < 65536) :
    readGroup? (Nat.toDigits 16 group) = some group := by
  have short : (Nat.toDigits 16 group).length ≤ 4 :=
    (Nat.length_toDigits_le_iff (by decide) (by decide)).mpr fits
  rw [readGroup?, if_pos ⟨Nat.toDigits_ne_nil, short⟩]
  clear fits short
  -- One digit after the other is read, of a number of any size.
  have wide : 1 < 16 := by decide
  induction group using Nat.base_induction 16 wide with
  | single group small =>
    rw [Nat.toDigits_of_lt_base small, List.foldlM_cons, hexValue?_digitChar small]
    simp
  | digit group last small positive ih =>
    rw [← Nat.toDigits_append_toDigits wide positive small, List.foldlM_append, ih,
      Nat.toDigits_of_lt_base small, Option.bind_eq_bind, Option.bind_some, List.foldlM_cons,
      hexValue?_digitChar small]
    rfl

/-- The characters of four bytes with dots between them. -/
theorem toList_dotted (four : Bytes) :
    (dotted four).toList = ['.'].intercalate (four.map fun byte => Nat.toDigits 10 byte.toNat) := by
  rw [dotted, String.toList_intercalate, List.map_map]
  congr 2
  funext byte
  exact Nat.toList_repr

/-- The characters of groups with colons between them. -/
theorem toList_colons (groups : List Nat) :
    (colons groups).toList = [':'].intercalate (groups.map (Nat.toDigits 16)) := by
  rw [colons, String.toList_intercalate, List.map_map]
  congr 2
  funext group
  exact String.toList_ofList

/-- Four bytes are read back. -/
theorem readFour?_dotted {four : Bytes} (size : four.length = 4) :
    readFour? (dotted four).toList = some four := by
  -- No digit is a dot, so that the dots are found again.
  have apart : ∀ piece ∈ four.map fun byte => Nat.toDigits 10 byte.toNat, '.' ∉ piece := by
    intro piece member
    obtain ⟨byte, _, rfl⟩ := List.mem_map.mp member
    exact Text.not_mem_toDigits rfl byte.toNat
  have filled : (four.map fun byte => Nat.toDigits 10 byte.toNat) ≠ [] := by
    apply List.ne_nil_of_length_pos
    rw [List.length_map]
    omega
  -- Each of the four pieces is read as its byte.
  rw [readFour?, toList_dotted, List.splitOn_intercalate '.' apart filled,
    Text.mapM_map_of_read fun byte _ => readByte?_toDigits byte]
  simp [size]

/-- A group is written without the marks that stand between groups. -/
theorem mark_not_mem_toDigits {group : Nat} {mark : Char} (known : mark = ':' ∨ mark = '.') :
    mark ∉ Nat.toDigits 16 group := by
  intro member
  obtain ⟨digit, _, same⟩ := exists_digitChar (by decide) mark member
  rcases known with rfl | rfl
  all_goals exact Nat.digitChar_ne _ rfl same.symm

/-- Four bytes are written with digits and dots, and at least one dot. -/
theorem marks_dotted {four : Bytes} (size : four.length = 4) :
    '.' ∈ (dotted four).toList ∧ ':' ∉ (dotted four).toList := by
  rw [toList_dotted]
  constructor
  · -- There is a dot behind the first of them.
    obtain ⟨first, second, rest, rfl⟩ : ∃ first second rest, four = first :: second :: rest := by
      rcases four with _ | ⟨first, _ | ⟨second, rest⟩⟩
      · cases size
      · cases size
      · exact ⟨_, _, _, rfl⟩
    rw [List.map_cons, List.map_cons, List.intercalate_cons_cons]
    simp
  · -- Neither the dots nor the digits are colons.
    intro member
    rcases Text.mem_intercalate member with dot | ⟨_, listed, digit⟩
    · exact absurd (List.mem_singleton.mp dot) (by decide)
    · obtain ⟨byte, _, rfl⟩ := List.mem_map.mp listed
      exact Text.not_mem_toDigits rfl byte.toNat digit

/-- Groups are written as such pieces. -/
theorem areApart_toDigits (groups : List Nat) : AreApart (groups.map (Nat.toDigits 16)) := by
  rintro _ member
  obtain ⟨group, _, rfl⟩ := List.mem_map.mp member
  exact ⟨Nat.toDigits_ne_nil, mark_not_mem_toDigits (.inl rfl)⟩

/-- Groups are read back. -/
theorem readGroups?_toDigits {groups : List Nat} (fit : ∀ group ∈ groups, group < 65536) :
    readGroups? (groups.map (Nat.toDigits 16)) = some groups := by
  -- The induction is on the groups; only the last one could be written as four bytes.
  induction groups with
  | nil => rfl
  | cons group groups ih =>
    obtain ⟨small, others⟩ := List.forall_mem_cons.mp fit
    cases groups with
    | nil =>
      rw [List.map_singleton, readGroups?, if_neg (mark_not_mem_toDigits (.inr rfl)),
        readGroup?_toDigits small]
      rfl
    | cons next groups =>
      rw [List.map_cons, List.map_cons, readGroups?, readGroup?_toDigits small, ← List.map_cons,
        ih others]
      · rfl
      · exact List.cons_ne_nil _ _

/-- Nothing is lost of an address that is made of its bytes. -/
theorem ofBytes?_bytes (address : Address) : ofBytes? address.bytes = some address :=
  dif_pos address.size

/-- The groups of an address make up that address. -/
theorem ofBytes?_groups (address : Address) :
    ofBytes? (ofGroups (groups address.bytes)) = some address := by
  have even : address.bytes.length % 2 = 0 := by rw [address.size]
  rw [ofGroups_groups even, ofBytes?_bytes]

/-- Groups without a gap are read as they are. -/
theorem readLong?_colons {groups : List Nat} (fit : ∀ group ∈ groups, group < 65536) :
    readLong? (colons groups).toList = ofBytes? (ofGroups groups) := by
  -- Without a gap the groups are all there.
  have split : splitGap (colons groups).toList = none := by
    have none := Text.splitGap_joined (areApart_toDigits groups) []
    rwa [List.append_nil, ← toList_colons] at none
  rw [readLong?, split]
  dsimp only
  rw [toList_colons, Text.pieces_joined (areApart_toDigits groups), readGroups?_toDigits fit]
  rfl

/-- A gap is read as the zeros that are missing to eight groups. -/
theorem readLong?_gap {front back : List Nat} {parts : List (List Char)}
    (fit : ∀ group ∈ front, group < 65536) (apart : AreApart parts)
    (read : readGroups? parts = some back) (room : front.length + back.length < 8) :
    readLong? ((colons front).toList ++ ':' :: ':' :: [':'].intercalate parts)
      = ofBytes? (ofGroups (front ++ List.replicate (8 - (front.length + back.length)) 0 ++ back)) := by
  -- The gap is where the two colons stand, as the groups before it are apart.
  have split : splitGap ((colons front).toList ++ ':' :: ':' :: [':'].intercalate parts)
      = some ((colons front).toList, [':'].intercalate parts) := by
    rw [toList_colons, Text.splitGap_joined (areApart_toDigits front)]
    simp [splitGap]
  rw [readLong?, split]
  dsimp only
  rw [toList_colons, Text.pieces_joined (areApart_toDigits front), Text.pieces_joined apart, read,
    Text.mapM_map_of_read fun group member => readGroup?_toDigits (fit group member)]
  simp only [Option.bind_eq_bind, Option.bind_some, guard, if_pos room]
  rfl

/-- The groups of an address are read back, whether a run of zeros is left out or not. -/
theorem readLong?_compressed (address : Address) :
    readLong? (compressed (groups address.bytes)).toList = some address := by
  -- The groups of an address are eight, and each fits.
  have fit := groups_lt address.bytes
  have eight : (groups address.bytes).length = 8 := by rw [length_groups, address.size]
  have filled := longestZeros_filled (groups address.bytes)
  rw [compressed]
  generalize longestZeros (groups address.bytes) = run at filled ⊢
  obtain ⟨start, length⟩ := run
  dsimp only at filled ⊢
  -- A run of one zero is written like any other group.
  split
  · rename_i several
    generalize (groups address.bytes).take start = front at filled ⊢
    generalize (groups address.bytes).drop (start + length) = back at filled ⊢
    rw [← filled] at fit eight
    rw [List.length_append, List.length_append, List.length_replicate] at eight
    have first : ∀ group ∈ front, group < 65536 :=
      fun group member => fit group (List.mem_append_left _ (List.mem_append_left _ member))
    have last : ∀ group ∈ back, group < 65536 :=
      fun group member => fit group (List.mem_append_right _ member)
    -- As many zeros are missing as were left out.
    have missing : 8 - (front.length + back.length) = length := by omega
    have read := readLong?_gap first (areApart_toDigits back) (readGroups?_toDigits last) (by omega)
    rw [missing, filled, ofBytes?_groups, ← toList_colons] at read
    rw [String.toList_append, String.toList_append, List.append_assoc]
    exact read
  · rw [readLong?_colons fit, ofBytes?_groups]

/-- The bytes of an address that stands for one of four are read back. -/
theorem readLong?_dotted {four : Bytes} (size : four.length = 4) :
    readLong? ("::ffff:" ++ dotted four).toList = ofBytes? (mappedLead ++ four) := by
  obtain ⟨point, colon⟩ := marks_dotted size
  -- Both pieces are filled and hold no colon.
  have apart : AreApart ["ffff".toList, (dotted four).toList] := by
    have first : "ffff".toList ≠ [] ∧ ':' ∉ "ffff".toList := by decide
    have last : (dotted four).toList ≠ [] ∧ ':' ∉ (dotted four).toList :=
      ⟨List.ne_nil_of_mem point, colon⟩
    exact List.forall_mem_cons.mpr ⟨first, List.forall_mem_cons.mpr ⟨last, List.forall_mem_nil _⟩⟩
  have lead : readGroup? "ffff".toList = some 65535 := by decide
  have read : readGroups? ["ffff".toList, (dotted four).toList] = some (65535 :: groups four) := by
    rw [readGroups?, lead, readGroups?, if_pos point, readFour?_dotted size]
    · rfl
    · exact List.cons_ne_nil _ _
  -- The gap in front stands for five groups, as three are read behind it.
  have three : (65535 :: groups four).length = 3 := by rw [List.length_cons, length_groups, size]
  have room : ([] : List Nat).length + (65535 :: groups four).length < 8 := by
    rw [three]
    decide
  have told := readLong?_gap (List.forall_mem_nil _) apart read room
  rw [three, toList_colons] at told
  have shown : "::ffff:".toList = ':' :: ':' :: ("ffff".toList ++ [':']) := by decide
  rw [String.toList_append, shown, ← ofGroups_mapped size]
  simpa using told

/-- The four bytes for which an address stands are four bytes behind the lead. -/
theorem mapped?_size {address : Address} {four : Bytes} (mapped : address.mapped? = some four) :
    four.length = 4 ∧ ofBytes? (mappedLead ++ four) = some address := by
  have whole := mapped?_eq_some_iff.mp mapped
  have sizes := congrArg List.length whole
  rw [address.size, List.length_append] at sizes
  exact ⟨(Nat.add_left_cancel sizes).symm, whole ▸ ofBytes?_bytes address⟩

/-- The notation for sixteen bytes has colons. -/
theorem colon_mem_longText (address : Address) : ':' ∈ address.longText.toList := by
  -- A mapped address begins with colons, and so does a gap.
  unfold longText
  split
  · simp
  · have eight : (groups address.bytes).length = 8 := by rw [length_groups, address.size]
    rw [compressed]
    dsimp only
    split
    · simp
    · -- There is a colon behind the first of eight groups.
      rw [toList_colons]
      generalize groups address.bytes = groups at eight ⊢
      rcases groups with _ | ⟨first, _ | ⟨second, rest⟩⟩
      · cases eight
      · cases eight
      · rw [List.map_cons, List.map_cons, List.intercalate_cons_cons]
        simp

/-- An address is read back from the notation for sixteen bytes. -/
theorem read?_longText (address : Address) : read? address.longText.toList = some address := by
  rw [read?, if_pos (colon_mem_longText address)]
  -- An address is written with a dotted end or in groups.
  unfold longText
  split
  · rename_i four mapped
    obtain ⟨size, whole⟩ := mapped?_size mapped
    rw [readLong?_dotted size, whole]
  · exact readLong?_compressed address

/-- The address that four bytes stand for is read back from the notation for these. -/
theorem read?_dotted {address : Address} {four : Bytes} (mapped : address.mapped? = some four) :
    ':' ∉ (dotted four).toList ∧ read? (dotted four).toList = some address := by
  obtain ⟨size, whole⟩ := mapped?_size mapped
  have bare := (marks_dotted size).2
  rw [read?, if_neg bare, readFour?_dotted size]
  exact ⟨bare, whole⟩

/-- An address is read back from its text. -/
theorem read?_text (address : Address) : read? address.text.toList = some address := by
  -- A mapped address is written as the four bytes alone.
  unfold text
  split
  · rename_i four mapped
    exact (read?_dotted mapped).2
  · exact read?_longText address

example : (read? "64:ff9b::192.0.2.1".toList).map text = some "64:ff9b::c000:201" := by
  decide +kernel

/-- So different addresses have different texts. -/
theorem text_inj {address other : Address} : address.text = other.text ↔ address = other :=
  Text.write_inj_of_read read?_text

end Address

namespace Subnet

/-- A number of bits is read back behind a slash. -/
theorem read?_append {shown : String} {address : Address}
    (read : Address.read? shown.toList = some address) (number : UInt8) :
    read? (shown ++ "/" ++ toString number.toNat).toList
      = if ':' ∈ shown.toList then some ⟨address, number⟩
        else if number.toNat + 96 < 256 then some ⟨address, UInt8.ofNat (number.toNat + 96)⟩
        else none := by
  -- No digit is a slash, so the number begins behind the last one.
  have slash : '/' ∉ Nat.toDigits 10 number.toNat := Text.not_mem_toDigits rfl number.toNat
  have whole : (shown ++ "/" ++ toString number.toNat).toList
      = shown.toList ++ '/' :: Nat.toDigits 10 number.toNat := by
    rw [String.toList_append, String.toList_append, Nat.toString_eq_repr, Nat.toList_repr,
      List.append_assoc]
    rfl
  rw [Subnet.read?, whole, Text.splitLast_append slash]
  simp only [Option.bind_eq_bind, Option.bind_some, read, Address.readByte?_toDigits, guard]
  split
  · rfl
  · split <;> rfl

/-- A range that is not shown as one of four-byte addresses has all bits of its length in its text. -/
theorem text_long {subnet : Subnet}
    (long : subnet.address.mapped? = none ∨ subnet.length.toNat < 96) :
    subnet.text = subnet.address.longText ++ "/" ++ toString subnet.length.toNat := by
  unfold text
  -- A range that is not mapped is written long, and so is a short one that is.
  rcases long with apart | short
  · rw [apart]
  · split
    · rw [if_neg (Nat.not_le_of_lt short)]
    · rfl

/-- A range of addresses of four bytes is shown with the bits that count of these, if it has all of
those of the lead. -/
theorem text_short {subnet : Subnet} {four : Bytes} (mapped : subnet.address.mapped? = some four)
    (long : 96 ≤ subnet.length.toNat) : ∃ number : UInt8, number.toNat + 96 = subnet.length.toNat ∧
      subnet.text = Address.dotted four ++ "/" ++ toString number.toNat := by
  have fits := subnet.length.toNat_lt
  -- The number is the length without the bits of the lead, which is not below zero.
  have held : (UInt8.ofNat (subnet.length.toNat - 96)).toNat = subnet.length.toNat - 96 :=
    UInt8.toNat_ofNat_of_lt (show _ < 256 by omega)
  refine ⟨UInt8.ofNat (subnet.length.toNat - 96), by omega, ?_⟩
  rw [held, text, mapped]
  exact if_pos long

/-- A range is read back from its text. -/
theorem read?_text (subnet : Subnet) : read? subnet.text.toList = some subnet := by
  -- Without the notation for four bytes all bits are shown, and read back as they are.
  have long (apart : subnet.address.mapped? = none ∨ subnet.length.toNat < 96) :
      read? subnet.text.toList = some subnet := by
    rw [text_long apart, read?_append (Address.read?_longText _),
      if_pos (Address.colon_mem_longText _)]
  cases mapped : subnet.address.mapped? with
  | none => exact long (.inl mapped)
  | some four =>
    -- The text of four bytes is chosen only if the lead is not cut through.
    rcases Nat.lt_or_ge subnet.length.toNat 96 with short | all
    · exact long (.inr short)
    · obtain ⟨number, counted, same⟩ := text_short mapped all
      obtain ⟨bare, read⟩ := Address.read?_dotted mapped
      have fits := subnet.length.toNat_lt
      rw [same, read?_append read, if_neg bare, counted, if_pos fits, UInt8.ofNat_toNat]

example : (read? "10.0.0.0/8".toList).map length = some 104 := by decide +kernel

/-- So different ranges have different texts, even if they hold the same addresses. -/
theorem text_inj {subnet other : Subnet} : subnet.text = other.text ↔ subnet = other :=
  Text.write_inj_of_read read?_text

end Subnet

end EngineClient
