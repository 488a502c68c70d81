import EngineClient.Engine.Process
import EngineClient.Text.Split
import EngineClient.Text.Unsigned

/-! Small programs that scripts are made of. -/

namespace EngineClient.Shell

/-- What a program does, and the code with which it ends. -/
structure Effect where
  /-- What it does in order. -/
  deeds : List Deed := []
  /-- The exit code. -/
  code : Nat := 0

namespace Effect

/-- A program that only writes. -/
def writes (bytes : Bytes) : Effect :=
  { deeds := [.output bytes] }

/-- A program that complains and fails. -/
def fails (code : Nat) (complaint : String) : Effect :=
  { deeds := [.errorOutput (Utf8.encode (complaint ++ "\n"))], code }

end Effect

/-- The value of octal digits. -/
def octalValue (digits : List Char) : UInt8 :=
  UInt8.ofNat (digits.foldl (fun value digit => value * 8 + (digit.toNat - '0'.toNat)) 0)

/-- Whether a character is an octal digit. -/
def isOctal (char : Char) : Bool :=
  '0' ≤ char && char ≤ '7'

/-- The byte that an escape stands for, read behind its backslash, and the rest. -/
def escape (chars : List Char) : Bytes × List Char :=
  match chars with
  | 'a' :: rest => ([0x7], rest)
  | 'b' :: rest => ([0x8], rest)
  | 'f' :: rest => ([0xC], rest)
  | 'n' :: rest => ([0xA], rest)
  | 'r' :: rest => ([0xD], rest)
  | 't' :: rest => ([0x9], rest)
  | 'v' :: rest => ([0xB], rest)
  | '\\' :: rest => ([0x5C], rest)
  | char :: rest =>
    if isOctal char then
      let digits := char :: (rest.take 2).takeWhile isOctal
      ([octalValue digits], chars.drop digits.length)
    else ([0x5C], chars)
  | [] => ([0x5C], [])

/-- The bytes of a text with escapes, and whether an escape ends all output. -/
def unescape (written : Bytes) (chars : List Char) : Nat → Bytes × Bool
  | 0 => (written, false)
  | fuel + 1 =>
    match chars with
    | [] => (written, false)
    | '\\' :: 'c' :: _ => (written, true)
    | '\\' :: '0' :: rest =>
      let digits := (rest.take 3).takeWhile isOctal
      unescape (written ++ [octalValue digits]) (rest.drop digits.length) fuel
    | '\\' :: rest =>
      let (bytes, rest) := escape rest
      unescape (written ++ bytes) rest fuel
    | char :: rest => unescape (written ++ Utf8.encode char.toString) rest fuel

/-- The bytes of a text with escapes, and whether an escape ends all output. -/
def unescaped (text : String) : Bytes × Bool :=
  unescape [] text.toList (text.toList.length + 1)

/-- What the shell's own `echo` writes: its arguments, with escapes. -/
def echo (args : List String) : Bytes :=
  let (ending, args) := match args with
    | "-n" :: rest => ("", rest)
    | args => ("\n", args)
  let (bytes, stopped) := unescaped (" ".intercalate args)
  if stopped then bytes else bytes ++ Utf8.encode ending

/-- What the program `echo` writes: its arguments as they are. -/
def echoPlain (args : List String) : Bytes :=
  match args with
  | "-n" :: rest => Utf8.encode (" ".intercalate rest)
  | "-e" :: rest => echo rest
  | args => Utf8.encode (" ".intercalate args ++ "\n")

/-- A text laid out by a format that is gone through once. -/
structure Formatted where
  /-- The bytes written. -/
  written : Bytes := []
  /-- The arguments that were not used. -/
  args : List String
  /-- Whether an argument was asked for. -/
  used : Bool := false
  /-- Whether an escape ends all output. -/
  stopped : Bool := false

namespace Formatted

/-- Adds bytes. -/
def write (formatted : Formatted) (bytes : Bytes) : Formatted :=
  { formatted with written := formatted.written ++ bytes }

/-- Writes the next argument, or what is written where there is none. -/
def next (formatted : Formatted) (render : String → Bytes × Bool) : Formatted :=
  let (bytes, stopped) := render (formatted.args.headD "")
  { formatted with
    written := formatted.written ++ bytes, args := formatted.args.tail, used := true, stopped }

end Formatted

/-- The text of a number argument. -/
def numberText (text : String) : String :=
  match text.toInt? with
  | some value => toString value
  | none => "0"

/-- Goes through a format once. -/
def formatOnce (formatted : Formatted) (format : List Char) : Nat → Formatted
  | 0 => formatted
  | fuel + 1 =>
    if formatted.stopped then formatted
    else match format with
      | [] => formatted
      | '\\' :: rest =>
        let (bytes, rest) := escape rest
        formatOnce (formatted.write bytes) rest fuel
      | '%' :: '%' :: rest => formatOnce (formatted.write [0x25]) rest fuel
      | '%' :: 's' :: rest =>
        formatOnce (formatted.next fun text => (Utf8.encode text, false)) rest fuel
      | '%' :: 'b' :: rest => formatOnce (formatted.next unescaped) rest fuel
      | '%' :: 'c' :: rest =>
        formatOnce (formatted.next fun text => ((Utf8.encode text).take 1, false)) rest fuel
      | '%' :: 'd' :: rest =>
        formatOnce (formatted.next fun text => (Utf8.encode (numberText text), false)) rest fuel
      | char :: rest => formatOnce (formatted.write (Utf8.encode char.toString)) rest fuel

/-- Goes through a format again as long as arguments are left and used. -/
def formatAll (formatted : Formatted) (format : List Char) : Nat → Bytes
  | 0 => formatted.written
  | fuel + 1 =>
    let after := formatOnce { formatted with used := false } format (format.length + 1)
    if after.used && !after.args.isEmpty && !after.stopped then formatAll after format fuel
    else after.written

/-- What `printf` writes. -/
def printf : List String → Effect
  | [] => .fails 2 "printf: usage: printf format [arg ...]"
  | format :: args => .writes (formatAll { args } format.toList (args.length + 1))

/-- The content of a file, or nothing where it does not end. -/
def contentOf? (path : String) (input : Bytes) : Option (Option Bytes) :=
  if path = "-" || path = "/dev/stdin" then some (some input)
  else if path = "/dev/null" then some (some [])
  else if path = "/dev/zero" then some none
  else none

/-- What `cat` does: it writes its files one after another. -/
def cat (input : Bytes) : List String → Effect
  | [] => {}
  | path :: rest =>
    let after := cat input rest
    match contentOf? path input with
    | some (some bytes) => { after with deeds := .output bytes :: after.deeds }
    | some none => { deeds := [.hang] }
    | none =>
      { deeds := .errorOutput (Utf8.encode ("cat: " ++ path ++ ": No such file or directory\n"))
          :: after.deeds
        code := 1 }

/-- The first lines of some bytes, newlines included. -/
def firstLines (count : Nat) : Bytes → Bytes
  | [] => []
  | byte :: rest =>
    if count = 0 then []
    else byte :: firstLines (if byte = 0xA then count - 1 else count) rest

/-- What `head` does with bytes asked for, and lines where no number of bytes is asked for. -/
def headOf (bytes : Option Nat) (lines : Nat) (path : String) (input : Bytes) : Effect :=
  match contentOf? path input, bytes with
  | some (some content), some count => .writes (content.take count)
  | some (some content), none => .writes (firstLines lines content)
  | some none, some count => .writes (List.replicate count 0)
  | some none, none => { deeds := [.hang] }
  | none, _ =>
    .fails 1 ("head: cannot open '" ++ path ++ "' for reading: No such file or directory")

/-- What `head` does. -/
def head (bytes : Option Nat) (lines : Nat) (input : Bytes) : List String → Effect
  | [] => headOf bytes lines "-" input
  | [path] => headOf bytes lines path input
  | "-c" :: count :: rest => head count.toNat? lines input rest
  | "-n" :: count :: rest => head none (count.toNat?.getD lines) input rest
  | path :: _ => headOf bytes lines path input

/-- The byte given in place of a wanted one; the last byte given stands for all further ones. -/
def exchange (wanted given : Bytes) (byte : UInt8) : UInt8 :=
  let given := given ++ List.replicate wanted.length (given.getLast?.getD byte)
  ((wanted.zip given).lookup byte).getD byte

/-- What `tr` does: it exchanges or deletes bytes of its input. -/
def tr (input : Bytes) : List String → Effect
  | ["-d", wanted] =>
    let (bytes, _) := unescaped wanted
    .writes (input.filter fun byte => !bytes.contains byte)
  | [wanted, given] =>
    .writes (input.map (exchange (unescaped wanted).1 (unescaped given).1))
  | _ => .fails 1 "tr: missing operand"

/-- What `seq` does: it counts. -/
def seq (args : List String) : Effect :=
  let (first, last) := match args.map fun text => text.toNat?.getD 0 with
    | [last] => (1, last)
    | first :: last :: _ => (first, last)
    | [] => (1, 0)
  .writes (Utf8.encode (String.join
    ((List.range' first (last + 1 - first)).map fun value => toString value ++ "\n")))

/-- The milliseconds of a number of seconds, fractions of one dropped. -/
def milliseconds? (text : String) : Option Nat :=
  let digits (chars : List Char) : Option Nat :=
    if chars.all Char.isDigit then some (chars.foldl (fun n c => n * 10 + (c.toNat - '0'.toNat)) 0)
    else none
  match Text.splitFirst '.' text.toList with
  | some (whole, fraction) => do
    let fraction := fraction.take 3
    some ((← digits whole) * 1000 + (← digits fraction) * Nat.pow 10 (3 - fraction.length))
  | none => if text.isEmpty then none else (digits text.toList).map (· * 1000)

/-- What `sleep` does. -/
def sleep : List String → Effect
  | [text] =>
    match milliseconds? text with
    | some duration => { deeds := [.pause duration] }
    | none => .fails 1 ("sleep: invalid time interval '" ++ text
      ++ "'\nTry 'sleep --help' for more information.")
  | _ => .fails 1 "sleep: missing operand\nTry 'sleep --help' for more information."

/-- What `yes` does before it is stopped: it repeats a line. -/
def yes (args : List String) : Effect :=
  let line := Utf8.encode (" ".intercalate (if args.isEmpty then ["y"] else args) ++ "\n")
  .writes (List.replicate (256 * 1024 / line.length + 1) line).flatten

/-- Whether a condition holds that is made up of two numbers. -/
def compare (left right : String) (holds : Int → Int → Bool) : Bool :=
  match left.toInt?, right.toInt? with
  | some left, some right => holds left right
  | _, _ => false

/-- Whether a condition holds. -/
def condition : List String → Bool
  | [] => false
  | [text] => !text.isEmpty
  | ["!", text] => text.isEmpty
  | ["-n", text] => !text.isEmpty
  | ["-z", text] => text.isEmpty
  | [left, "=", right] => left = right
  | [left, "!=", right] => left ≠ right
  | [left, "-eq", right] => compare left right fun left right => left = right
  | [left, "-ne", right] => compare left right fun left right => left ≠ right
  | [left, "-lt", right] => compare left right fun left right => left < right
  | [left, "-le", right] => compare left right fun left right => left ≤ right
  | [left, "-gt", right] => compare left right fun left right => right < left
  | [left, "-ge", right] => compare left right fun left right => right ≤ left
  | _ => false

/-- What `test` does. -/
def test (args : List String) : Effect :=
  { code := if condition args then 0 else 1 }

/-- What a program of a name does with its arguments and its input. -/
def utility (name : String) (args : List String) (input : Bytes) : Effect :=
  match name with
  | "cat" => if args.isEmpty then .writes input else cat input args
  | "echo" => .writes (echoPlain args)
  | "false" => { code := 1 }
  | "head" => head none 10 input args
  | "printf" => printf args
  | "seq" => seq args
  | "sleep" => sleep args
  | "test" => test args
  | "tr" => tr input args
  | "yes" => yes args
  | _ => {}

end EngineClient.Shell
