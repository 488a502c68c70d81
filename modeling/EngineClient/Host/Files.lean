import EngineClient.Engine.StartFault
import EngineClient.Text.Utf8

/-! The files of a host, as far as command lines name them: directories, programs and plain files. -/

namespace EngineClient

/-- What a path can name. -/
inductive FileKind where
  /-- A directory. -/
  | directory
  /-- A file that cannot be run. -/
  | plain
  /-- A program of a name. -/
  | program (name : String)
deriving DecidableEq, Repr

namespace Files

/-- The directories of a host. -/
def directories : List (List String) :=
  [[], ["bin"], ["boot"], ["dev"], ["etc"], ["home"], ["lib"], ["media"], ["mnt"], ["opt"],
    ["proc"], ["root"], ["run"], ["sbin"], ["srv"], ["sys"], ["tmp"], ["usr"], ["usr", "bin"],
    ["usr", "lib"], ["usr", "local"], ["usr", "local", "bin"], ["usr", "sbin"], ["usr", "share"],
    ["var"], ["var", "log"], ["var", "tmp"]]

/-- The plain files of a host. -/
def plainFiles : List (List String) :=
  [["dev", "null"], ["dev", "zero"], ["etc", "group"], ["etc", "hostname"], ["etc", "hosts"],
    ["etc", "passwd"]]

/-- The names of the programs that every host has. -/
def programNames : List String :=
  ["sh", "cat", "echo", "false", "head", "printf", "seq", "sleep", "test", "tr", "true", "yes"]

/-- What a path from the top names, given by its parts. -/
def kindOf? (path : List String) : Option FileKind :=
  if path ∈ directories then some .directory
  else if path ∈ plainFiles then some .plain
  else match path with
    | ["bin", name] => if name ∈ programNames then some (.program name) else none
    | ["usr", "bin", name] => if name ∈ programNames then some (.program name) else none
    | _ => none

/-- The longest name that a part of a path can have, in bytes. -/
def nameLimit : Nat := 255

/-- Walks from a directory along the parts of a path. -/
def walk (passed : List String) : List String → Except StartFault FileKind
  | [] => (kindOf? passed).elim (.error .notFound) .ok
  | part :: rest =>
    if kindOf? passed ≠ some .directory then
      .error (if (kindOf? passed).isSome then .notDirectory else .notFound)
    else if part = "" ∨ part = "." then walk passed rest
    else if part = ".." then walk passed.dropLast rest
    else if nameLimit < (Utf8.encode part).length then .error .nameTooLong
    else walk (passed ++ [part]) rest

/-- The directory that paths without a leading slash start from; it holds nothing of its own. -/
def home : List String := ["root"]

/-- The program that a path with a slash names. -/
def programAt (path : String) : Except StartFault String := do
  let parts := path.splitOn "/"
  let found ← if path.startsWith "/" then walk [] parts else walk home parts
  match found with
  | .program name => .ok name
  | _ => .error .denied

/-- The program of a name, which is looked up among all programs where it has no slash. -/
def find (program : String) : Except StartFault String :=
  if program.toList.contains '/' then programAt program
  else if program = "." ∨ program = ".." then .error .denied
  else if nameLimit < (Utf8.encode program).length then .error .nameTooLong
  else if program ∈ programNames then .ok program
  else .error .notFound

/-- The longest argument that can be handed to a program, in bytes. -/
def argumentLimit : Nat := 128 * 1024 - 1

/-- What keeps arguments from being handed to a program, if anything. -/
def argumentFault? (args : List String) : Option StartFault :=
  if args.any fun text => argumentLimit < (Utf8.encode text).length then some .argumentTooLong
  else none

/-- Whether a command line holds a zero character. -/
def holdsNul (invocation : Invocation) : Bool :=
  (invocation.program :: invocation.args).any fun text => text.toList.contains '\x00'

/-- Finds the program of a command line that can be started. -/
def start (invocation : Invocation) (find : String → Except StartFault String) :
    Except StartFault String := do
  if holdsNul invocation then throw .holdsNul
  let name ← find invocation.program
  match argumentFault? invocation.args with
  | some fault => throw fault
  | none => return name

end Files

end EngineClient
