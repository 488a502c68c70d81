import EngineClient.Arrow.Message
import EngineClient.Engine.Source
import EngineClient.Error
import EngineClient.Platform

/-! Cutting output into messages, and into the marks between one stream and the next. -/

namespace EngineClient.Arrow

/-- A unit of output. -/
inductive Frame where
  /-- A message: a marker, the length of the metadata, the metadata and the body. -/
  | message (bytes : Bytes)
  /-- The end of a stream. -/
  | endOfStream
deriving DecidableEq, Repr

namespace Frame

/-- Reading with failures, after which reading goes on behind what was read. -/
abbrev Reading := ExceptT Error (StateT Source Option)

/-- What precedes the length of the metadata; older writers leave it out. -/
def marker : Bytes := [0xFF, 0xFF, 0xFF, 0xFF]

/-- The greatest length of metadata. -/
def maxMetadata : Nat := 64 * 1024 * 1024

/-- The greatest length of a body. -/
def maxBody : Nat := Nat.pow 2 31

/-- Reads a number of bytes, or fewer where the output ends before. -/
def fill (count : Nat) : Reading Bytes := fun source =>
  match source.take count with
  | some (.ok bytes, rest) => some (.ok bytes, rest)
  | some (.error cause, rest) => some (.error (.ofRead cause), rest)
  | none => none

/-- Reads a number of bytes behind those of the frame so far. -/
def extend (frame : Bytes) (count : Nat) : Reading Bytes := do
  let bytes ← fill count
  if bytes.length < count then throw (.ofRaw "truncated arrow ipc message" (frame ++ bytes))
  else return frame ++ bytes

section

variable [Platform]

/-- Reads the body that a frame announces. -/
def readBody (frame : Bytes) : Reading Frame :=
  -- In front of the metadata stand the marker and their length.
  let metadata := frame.drop 8
  match Message.ofBytes? metadata with
  | none =>
    throw (.ofRaw ("invalid arrow ipc message metadata: " ++ Platform.metadataFault metadata) frame)
  | some head =>
    if head.bodyLength < 0 ∨ (maxBody : Int) < head.bodyLength then
      throw (.ofRaw ("invalid arrow ipc body length " ++ toString head.bodyLength) frame)
    else do return .message (← extend frame head.bodyLength.toNat)

/-- Reads the unit whose metadata has a length, given what was read of the unit already. -/
def readUnit (header length : Bytes) : Reading Frame :=
  let count := length.toInt
  if count = 0 then return .endOfStream
  else if count < 0 ∨ (maxMetadata : Int) < count then
    throw (.ofRaw ("invalid arrow ipc metadata length " ++ toString count) header)
  -- The frame gets a marker even where the output has none.
  else do readBody (← extend (marker ++ length) count.toNat)

/-- Reads the unit that some bytes begin, of which there should be four. -/
def readFrom (first : Bytes) : Reading Frame :=
  if first.length < 4 then throw (.ofRaw "truncated arrow ipc message header" first)
  else if first = marker then do
    let length ← fill 4
    if length.length < 4 then throw (.ofRaw "truncated arrow ipc message header" (first ++ length))
    else readUnit (first ++ length) length
  else readUnit first first

/-- Reads the next unit, or nothing at the end of the output. -/
def read : Reading (Option Frame) := do
  let first ← fill 4
  -- Only an output that ends between two units ends well.
  if first.isEmpty then return none else return some (← readFrom first)

end

/-- What holds of filling, of a value at hand and of a failure, and of one reading after another if it
holds of each. -/
structure Composes (Held : {α : Type} → Reading α → Prop) : Prop where
  pure {α : Type} (value : α) : Held (pure value : Reading α)
  throw {α : Type} (message : String) (raw : Bytes) :
    Held (throw (.ofRaw message raw) : Reading α)
  fill (count : Nat) : Held (fill count)
  bind {α β : Type} {first : Reading α} {next : α → Reading β} (before : Held first)
    (behind : ∀ value, Held (next value)) : Held (first >>= next)

namespace Composes

variable {Held : {α : Type} → Reading α → Prop}

/-- It holds of extending a frame. -/
theorem extend (composes : Composes Held) (frame : Bytes) (count : Nat) :
    Held (Frame.extend frame count) := by
  refine composes.bind (composes.fill count) fun bytes => ?_
  split
  · exact composes.throw _ _
  · exact composes.pure _

variable [Platform]

/-- It holds of reading a body. -/
theorem readBody (composes : Composes Held) (frame : Bytes) : Held (Frame.readBody frame) := by
  -- The length of the body is in the frame, so both checks are made before a byte is taken.
  simp only [Frame.readBody]
  split
  · exact composes.throw _ _
  · split
    · exact composes.throw _ _
    · exact composes.bind (composes.extend _ _) fun _ => composes.pure _

/-- It holds of reading a unit whose length is known. -/
theorem readUnit (composes : Composes Held) (header length : Bytes) :
    Held (Frame.readUnit header length) := by
  simp only [Frame.readUnit]
  split
  · exact composes.pure _
  · split
    · exact composes.throw _ _
    · exact composes.bind (composes.extend _ _) composes.readBody

/-- It holds of reading on from the first bytes of a unit. -/
theorem readFrom (composes : Composes Held) (first : Bytes) : Held (Frame.readFrom first) := by
  -- A marker is told by the first bytes, which are at hand; the length behind it is still to come.
  simp only [Frame.readFrom]
  split
  · exact composes.throw _ _
  · split
    · refine composes.bind (composes.fill 4) fun length => ?_
      split
      · exact composes.throw _ _
      · exact composes.readUnit _ _
    · exact composes.readUnit _ _

/-- It holds of reading the next unit. -/
theorem read (composes : Composes Held) : Held Frame.read := by
  -- An output that ends before a unit is no failure, so the first bytes may be missing.
  refine composes.bind (composes.fill 4) fun first => ?_
  split
  · exact composes.pure _
  · exact composes.bind (composes.readFrom first) fun _ => composes.pure _

end Composes

/-- One reading after another succeeds if the first does, and the second from where that stopped. -/
theorem bind_ok {α β : Type} {first : Reading α} {next : α → Reading β} {source rest : Source}
    {value : β} (read : (first >>= next) source = some (.ok value, rest)) :
    ∃ held middle, first source = some (.ok held, middle)
      ∧ next held middle = some (.ok value, rest) := by
  simp only [bind, ExceptT.bind, ExceptT.mk, StateT.bind] at read
  -- A first reading that is stuck or fails has no value behind it.
  cases ran : first source with
  | none => simp [ran] at read
  | some answer =>
    obtain ⟨result, middle⟩ := answer
    cases result with
    | error error =>
      simp only [ran, Option.bind_some] at read
      cases read
    | ok held => exact ⟨held, middle, rfl, by simpa [ran, ExceptT.bindCont] using read⟩

/-- Filling takes the bytes that it brings. -/
theorem fill_size {count : Nat} {source rest : Source} {bytes : Bytes}
    (read : fill count source = some (.ok bytes, rest)) :
    rest.size + bytes.length = source.size := by
  -- Filling takes what was asked for, or as much as there is.
  simp only [fill] at read
  split at read
  · rename_i taken
    simp only [Option.some.injEq, Prod.mk.injEq, Except.ok.injEq] at read
    obtain ⟨rfl, rfl⟩ := read
    exact Source.take_size taken
  · simp at read
  · simp at read

/-- A reading that leaves no more to be read than there was. -/
def Shrinks {α : Type} (reading : Reading α) : Prop :=
  ∀ source rest value, reading source = some (.ok value, rest) → rest.size ≤ source.size

/-- Whatever is read, no more is left to be read. -/
theorem composes_shrinks : Composes Shrinks where
  pure value := by
    intro source rest held read
    cases read
    exact Nat.le_refl _
  throw message raw := by
    intro source rest held read
    cases read
  -- Of what is filled in only the bytes taken are gone.
  fill count := by
    intro source rest bytes read
    have := fill_size read
    omega
  bind before behind := by
    -- The second reading shrinks what the first has left.
    intro source rest value read
    obtain ⟨held, middle, ran, inner⟩ := bind_ok read
    exact Nat.le_trans (behind held _ _ _ inner) (before _ _ _ ran)

variable [Platform]

/-- A unit takes at least a byte. -/
theorem read_size {source rest : Source} {frame : Frame}
    (ran : read source = some (.ok (some frame), rest)) : rest.size < source.size := by
  -- Its first bytes are there, and what follows them takes none back.
  obtain ⟨first, middle, filled, next⟩ := bind_ok ran
  have taken := fill_size filled
  split at next
  · cases next
  · rename_i present
    obtain ⟨held, after, inner, final⟩ := bind_ok next
    have shrunk := composes_shrinks.readFrom first _ _ _ inner
    have same := composes_shrinks.pure (some held) _ _ _ final
    have : first.length ≠ 0 := by simpa using present
    omega

end Frame

end EngineClient.Arrow
