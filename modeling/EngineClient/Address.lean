import EngineClient.Bytes

/-! Internet addresses and ranges of them, stored in sixteen bytes and written in the usual notation. -/

namespace EngineClient

/-- An address of sixteen bytes; one of four bytes is stored behind ten zeros and two full bytes. -/
structure Address where
  /-- The bytes, most significant first. -/
  bytes : Bytes
  /-- There are sixteen of them. -/
  size : bytes.length = 16
deriving DecidableEq

namespace Address

/-- The address of some bytes, if their number is right. -/
def ofBytes? (bytes : Bytes) : Option Address :=
  if size : bytes.length = 16 then some ⟨bytes, size⟩ else none

/-- What precedes the bytes of a stored four-byte address. -/
def mappedLead : Bytes :=
  List.replicate 10 0 ++ [0xFF, 0xFF]

/-- The four bytes of an address that stands for a four-byte one. -/
def mapped? (address : Address) : Option Bytes :=
  if address.bytes.take 12 = mappedLead then some (address.bytes.drop 12) else none

/-- Four bytes in dotted decimal notation. -/
def dotted (bytes : Bytes) : String :=
  ".".intercalate (bytes.map fun byte => toString byte.toNat)

/-- The numbers that pairs of bytes hold, the high half first. -/
def groups : Bytes → List Nat
  | high :: low :: rest => (high.toNat * 256 + low.toNat) :: groups rest
  | _ => []

/-- Where the first of the longest runs of zeros starts, and its length. -/
def longestZeros : List Nat → Nat × Nat
  | [] => (0, 0)
  | group :: rest =>
    let here := ((group :: rest).takeWhile (· = 0)).length
    let (start, length) := longestZeros rest
    if length ≤ here then (0, here) else (start + 1, length)

/-- Groups in hexadecimal, without zeros in front. -/
def colons (groups : List Nat) : String :=
  ":".intercalate (groups.map fun group => String.ofList (Nat.toDigits 16 group))

/-- Groups in colon notation, the longest run of at least two zeros left out. -/
def compressed (groups : List Nat) : String :=
  let (start, length) := longestZeros groups
  if 1 < length then colons (groups.take start) ++ "::" ++ colons (groups.drop (start + length))
  else colons groups

/-- The address in the notation for sixteen bytes. -/
def longText (address : Address) : String :=
  match address.mapped? with
  | some four => "::ffff:" ++ dotted four
  | none => compressed (groups address.bytes)

/-- The address in the notation for its kind. -/
def text (address : Address) : String :=
  match address.mapped? with
  | some four => dotted four
  | none => address.longText

end Address

/-- A range of addresses: those that begin with the same bits as one of them. -/
structure Subnet where
  /-- An address in the range. -/
  address : Address
  /-- How many bits of the stored address count. -/
  length : UInt8
deriving DecidableEq

/-- The range as an address and a number of bits, those of a four-byte address counted alone. -/
def Subnet.text (subnet : Subnet) : String :=
  match subnet.address.mapped? with
  | some four =>
    if 96 ≤ subnet.length.toNat then
      Address.dotted four ++ "/" ++ toString (subnet.length.toNat - 96)
    else subnet.address.longText ++ "/" ++ toString subnet.length.toNat
  | none => subnet.address.longText ++ "/" ++ toString subnet.length.toNat

end EngineClient
