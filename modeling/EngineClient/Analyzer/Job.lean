import EngineClient.Json.Value
import EngineClient.Text.Quoted
import EngineClient.Text.Unsigned

/-! Analyzer jobs: what is to be looked up, read from a JSON document. -/

namespace EngineClient.Analyzer

/-- What the settings of a job may say. -/
structure JobSettings where
  /-- The endpoint of the node to ask. -/
  endpoint : Option String := none
  /-- How many events are wanted at most. -/
  maxEvents : Option Nat := none
deriving DecidableEq, Repr

/-- An analyzer job. -/
structure Job where
  /-- The type of the observable. -/
  dataType : String := ""
  /-- The observable. -/
  data : Json := .null
  /-- How to look it up. -/
  settings : JobSettings := {}

/-- The kinds of document that a job has at its places. -/
inductive Shape where
  /-- A text. -/
  | text
  /-- A whole number of sixty-four bits that is not negative. -/
  | unsigned
  /-- A whole job. -/
  | job
  /-- The settings of a job. -/
  | settings
deriving DecidableEq, Repr

/-- The shape in words. -/
def Shape.describe : Shape → String
  | .text => "a string"
  | .unsigned => "u64"
  | .job => "struct Job"
  | .settings => "struct JobConfig"

/-- Why a document is no job. -/
inductive JobFault where
  /-- A document of another kind than its place asks for. -/
  | wrongKind (found : Json) (wanted : Shape)
  /-- A whole number that its place has no room for. -/
  | wrongNumber (found : Int) (wanted : Shape)
  /-- A list of settings with too few members. -/
  | tooShort (length : Nat)
  /-- A list with too many members. -/
  | tooLong (length : Nat)

/-- A document in words, named by its kind and, where it is no list or object, by its value. -/
def describe : Json → String
  | .null => "null"
  | .bool value => "boolean `" ++ (if value then "true" else "false") ++ "`"
  | .number (.int value) => "integer `" ++ toString value ++ "`"
  | .number (.double value) => "floating point `" ++ (Json.Number.double value).render ++ "`"
  | .string text => "string " ++ Quoted.quote text
  | .array _ => "sequence"
  | .object _ => "map"

/-- The fault in words. -/
def JobFault.message : JobFault → String
  | .wrongKind found wanted =>
    "invalid type: " ++ describe found ++ ", expected " ++ wanted.describe
  | .wrongNumber found wanted =>
    "invalid value: integer `" ++ toString found ++ "`, expected " ++ wanted.describe
  | .tooShort length =>
    "invalid length " ++ toString length ++ ", expected " ++ Shape.settings.describe
      ++ " with 2 elements"
  | .tooLong length =>
    "invalid length " ++ toString length ++ ", expected fewer elements in array"

/-- Reads a text. -/
def readText : Json → Except JobFault String
  | .string text => .ok text
  | other => .error (.wrongKind other .text)

/-- Reads a whole number that is not negative. -/
def readUnsigned : Json → Except JobFault Nat
  | .number (.int value) =>
    if 0 ≤ value ∧ value ≤ Unsigned.max64 then .ok value.toNat
    else .error (.wrongNumber value .unsigned)
  | other => .error (.wrongKind other .unsigned)

/-- Reads something that may be null instead. -/
def readNullable {α : Type} (read : Json → Except JobFault α) : Json → Except JobFault (Option α)
  | .null => .ok none
  | document => (read document).map some

/-- Reads something that may be missing, and has a default. -/
def readOr {α : Type} (absent : α) (read : Json → Except JobFault α) :
    Option Json → Except JobFault α
  | some document => read document
  | none => .ok absent

/-- Reads settings, by name from an object or by place from a list of just two. -/
def readSettings : Json → Except JobFault JobSettings
  | .object fields => do
    let endpoint ← readOr none (readNullable readText) (Keyed.get? fields "endpoint")
    let maxEvents ← readOr none (readNullable readUnsigned) (Keyed.get? fields "max_events")
    return { endpoint, maxEvents }
  | .array [] => .error (.tooShort 0)
  | .array (first :: rest) => do
    let endpoint ← readNullable readText first
    match rest with
    | [] => .error (.tooShort 1)
    | second :: rest =>
      let maxEvents ← readNullable readUnsigned second
      if rest.isEmpty then return { endpoint, maxEvents } else .error (.tooLong (rest.length + 2))
  | other => .error (.wrongKind other .settings)

/-- Reads a job, by name from an object or by place from a list; whatever is missing has a default. -/
def Job.ofJson : Json → Except JobFault Job
  | .object fields => do
    -- Names come in ascending order, so a fault of the settings is found before one of the type.
    let settings ← readOr {} readSettings (Keyed.get? fields "config")
    let dataType ← readOr "" readText (Keyed.get? fields "dataType")
    return { dataType, data := (Keyed.get? fields "data").getD .null, settings }
  | .array items => do
    let dataType ← readOr "" readText items[0]?
    let settings ← readOr {} readSettings items[2]?
    if items.length ≤ 3 then return { dataType, data := items[1]?.getD .null, settings }
    else .error (.tooLong items.length)
  | other => .error (.wrongKind other .job)

end EngineClient.Analyzer
