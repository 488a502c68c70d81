import EngineClient.Arrow.Column

/-! One stream of messages taken in bit by bit: its schema, its dictionaries and its batches. -/

namespace EngineClient.Arrow

/-- What the next bytes of a stream belong to. -/
inductive Expected where
  /-- The length of metadata, of which some bytes were read, perhaps behind a marker. -/
  | length (read : Bytes) (marked : Bool)
  /-- Metadata of a length. -/
  | metadata (size : Nat)
  /-- The body of a message. -/
  | body (message : Message)
  /-- Nothing: the stream has ended. -/
  | nothing
deriving Repr

/-- A stream between two of its bytes. -/
structure Assembly where
  /-- What the next bytes belong to. -/
  expected : Expected := .length [] false
  /-- What was gathered of it. -/
  gathered : Bytes := []
  /-- The schema of the stream. -/
  schema : Option Schema := none
  /-- The values of its dictionaries, by number. -/
  dictionaries : List (Int × Column) := []

mutual

/-- The types of the values of dictionaries with a number, in a field and the fields within. -/
def dictionaryTypes (id : Int) : FieldOf DataType → List DataType
  | ⟨_, type, _, source, _⟩ =>
    (match type with
      | .dictionary _ value => if source.any (fun source => source.id = id) then [value] else []
      | _ => []) ++ dictionaryTypesWithin id type

/-- The types of the values of dictionaries with a number, in the fields of a type. -/
def dictionaryTypesWithin (id : Int) : DataType → List DataType
  | .list _ item => dictionaryTypes id item
  | .fixedList item _ => dictionaryTypes id item
  | .struct fields => dictionaryTypesAmong id fields
  | .map entries _ => dictionaryTypes id entries
  | .union _ _ members => dictionaryTypesAmong id members
  | .dictionary _ value => dictionaryTypesWithin id value
  | .runs _ values => dictionaryTypes id values
  | _ => []

/-- The types of the values of dictionaries with a number, in some fields. -/
def dictionaryTypesAmong (id : Int) : List (FieldOf DataType) → List DataType
  | [] => []
  | field :: rest => dictionaryTypes id field ++ dictionaryTypesAmong id rest

end

/-- A part of a body, if it lies within. -/
def Span.of? (body : Array UInt8) (span : Span) : Option Bytes :=
  if 0 ≤ span.offset ∧ 0 ≤ span.length ∧ span.offset + span.length ≤ body.size then
    some (body.extract span.offset.toNat (span.offset + span.length).toNat).toList
  else none

/-- A buffer of a compressed batch; only one that is marked as left uncompressed can be read. -/
def unpack? (buffer : Bytes) : Option Bytes :=
  if buffer.isEmpty then some []
  else if buffer.length < 8 then none
  else match Bytes.toInt (buffer.take 8) with
    -- The length before compression stands in front; none at all means that nothing was compressed.
    | 0 => some []
    | -1 => some (buffer.drop 8)
    | _ => none

/-- The parts of a batch in its body. -/
def BatchLayout.parts? (layout : BatchLayout) (body : Bytes) : Option Parts :=
  let array := body.toArray
  let buffers := layout.spans.map (Span.of? array)
  match layout.codec with
  | none => some ⟨layout.nodes, buffers, layout.extra⟩
  -- Both codecs are known, but neither is built in.
  | some 0 | some 1 =>
    some ⟨layout.nodes, buffers.map (Option.bind · unpack?), layout.extra⟩
  | some _ => none

/-- The rows of columns of one length, none of which misses a cell unless its field says so. -/
def Batch.ofColumns? (schema : Schema) (count : Nat) (columns : List Column) : Option Batch :=
  if columns.all (fun column => column.length = count)
      ∧ (List.zip schema.fields columns).all (fun (field, column) =>
        field.nullable || complete column) then
    some ⟨schema, Rows.ofColumns count columns⟩
  else none

namespace Assembly

/-- The stream when a message has been taken in. -/
def ready (assembly : Assembly) : Assembly :=
  { assembly with expected := .length [] false }

/-- What is known before a batch of the stream is read. -/
def known (assembly : Assembly) (message : Message) : Surroundings :=
  ⟨message.version, assembly.dictionaries⟩

/-- Reads a batch of the stream. -/
def batch? (assembly : Assembly) (message : Message) (layout : BatchLayout) (body : Bytes) :
    Option Batch := do
  let schema ← assembly.schema
  let parts ← layout.parts? body
  let (columns, _) ← fieldColumns (assembly.known message) schema.fields parts
  Batch.ofColumns? schema layout.count columns

/-- Reads the values of a dictionary, which are the single column of a batch. -/
def values? (assembly : Assembly) (message : Message) (id : Int) (layout : BatchLayout)
    (body : Bytes) : Option Column := do
  let schema ← assembly.schema
  -- Several fields may share a dictionary; the first one tells its type.
  let type ← (dictionaryTypesAmong id schema.fields).head?
  let parts ← layout.parts? body
  let (column, _) ← typeColumn (assembly.known message) none type parts
  guard (column.length = layout.count)
  return column

/-- Takes in a whole message, which may be a batch; `none` where it is out of place or broken. -/
def accept (assembly : Assembly) (message : Message) (body : Bytes) :
    Option (Option Batch × Assembly) :=
  match message.header with
  | .empty => some (none, assembly.ready)
  | .schema (some schema) =>
    -- A stream has one schema.
    if assembly.schema.isSome then none
    else some (none, { assembly.ready with schema := some schema })
  | .dictionary id false (some layout) => do
    let column ← assembly.values? message id layout body
    -- New values take the place of those before.
    let others := assembly.dictionaries.filter fun held => held.1 ≠ id
    return (none, { assembly.ready with dictionaries := (id, column) :: others })
  | .batch (some layout) => do
    let batch ← assembly.batch? message layout body
    return (some batch, assembly.ready)
  | _ => none

/-- What taking in some bytes brings. -/
inductive Outcome where
  /-- No batch so far. -/
  | more
  /-- A batch; bytes behind it are dropped. -/
  | batch (batch : Batch)
  /-- Something that is no part of a stream. -/
  | broken

/-- How many bytes of body a message announces. -/
def bodySize (message : Message) : Nat :=
  (message.bodyLength % (Nat.pow 2 64 : Nat)).toNat

/-- One step of taking in bytes. -/
inductive Step where
  /-- The bytes are used up, or what they brought is known. -/
  | done (outcome : Outcome) (assembly : Assembly)
  /-- There are bytes left. -/
  | next (assembly : Assembly) (rest : Bytes)

/-- Takes in more of the length of metadata. -/
def stepLength (assembly : Assembly) (read : Bytes) (marked : Bool) (bytes : Bytes) : Step :=
  let owed := 4 - read.length
  let read := read ++ bytes.take owed
  let rest := bytes.drop owed
  if read.length < 4 then .next { assembly with expected := .length read marked } rest
  -- A second marker is a length, and far too great a one.
  else if !marked ∧ read = [0xFF, 0xFF, 0xFF, 0xFF] then
    .next { assembly with expected := .length [] true } rest
  else if read.toNat = 0 then .next { assembly with expected := .nothing } rest
  else .next { assembly with expected := .metadata read.toNat } rest

/-- Takes in more of the metadata; a message is made of it as soon as it is complete. -/
def stepMetadata (assembly : Assembly) (size : Nat) (bytes : Bytes) : Step :=
  let owed := size - assembly.gathered.length
  let gathered := assembly.gathered ++ bytes.take owed
  let rest := bytes.drop owed
  if gathered.length < size then .next { assembly with gathered } rest
  else match Message.ofBytes? gathered with
    | some message => .next { assembly with expected := .body message, gathered := [] } rest
    | none => .done .broken { assembly with gathered := [] }

/-- Takes in more of a body; the message is complete with it only now. -/
def stepBody (assembly : Assembly) (message : Message) (bytes : Bytes) : Step :=
  let owed := bodySize message - assembly.gathered.length
  let body := assembly.gathered ++ bytes.take owed
  let rest := bytes.drop owed
  if body.length < bodySize message then .next { assembly with gathered := body } rest
  else
    let emptied := { assembly with gathered := [] }
    match emptied.accept message body with
    | some (some batch, assembly) => .done (.batch batch) assembly
    | some (none, assembly) => .next assembly rest
    | none => .done .broken emptied

/-- Takes in some bytes, of which there is at least one. -/
def step (assembly : Assembly) (bytes : Bytes) : Step :=
  match assembly.expected with
  | .length read marked => assembly.stepLength read marked bytes
  | .metadata size => assembly.stepMetadata size bytes
  | .body message => assembly.stepBody message bytes
  -- Nothing may follow the end of a stream.
  | .nothing => .done .broken assembly

/-- Takes in bytes one step after another, at most a number of steps. -/
def feedSteps : Nat → Assembly → Bytes → Outcome × Assembly
  | 0, assembly, _ => (.more, assembly)
  | steps + 1, assembly, bytes =>
    -- A message is not looked at before bytes have come behind it, even if it has no body.
    if bytes.isEmpty then (.more, assembly)
    else match assembly.step bytes with
      | .done outcome assembly => (outcome, assembly)
      | .next assembly rest => feedSteps steps assembly rest

/-- Takes in bytes; of any two steps one takes at least a byte. -/
def feed (assembly : Assembly) (bytes : Bytes) : Outcome × Assembly :=
  feedSteps (2 * bytes.length + 2) assembly bytes

end Assembly

end EngineClient.Arrow
