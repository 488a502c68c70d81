import EngineClient.Engine.Capture
import EngineClient.Engine.Script

/-! Processes: what a started program does step by step, and the engine that this makes it. -/

namespace EngineClient

/-- What a process does when it is told to end. -/
inductive Response where
  /-- It ends by the signal. -/
  | ends
  /-- It goes on as if nothing had happened. -/
  | ignores
  /-- Once it has finished its pause it writes to its error output, then ends or goes on. -/
  | handles (stderr : Bytes) (code : Option Int)
deriving DecidableEq, Repr

/-- One thing that a process does. -/
inductive Deed where
  /-- It writes to its output. -/
  | output (bytes : Bytes)
  /-- It writes to its error output. -/
  | errorOutput (bytes : Bytes)
  /-- It does nothing for a number of milliseconds. -/
  | pause (milliseconds : Nat)
  /-- It does nothing any more, and does not end. -/
  | hang
  /-- It decides what to do when it is told to end. -/
  | resolve (response : Response)
deriving DecidableEq, Repr

/-- A process. -/
structure Process where
  /-- What it does in order. -/
  deeds : List Deed := []
  /-- The exit code with which it ends, or none where a signal ends it. -/
  code : Option Int := some 0
deriving DecidableEq, Repr

namespace Process

/-- What a deed does on the output, if anything. -/
def outputOf : Deed → Option OutputEvent
  | .output bytes => some (.data bytes)
  | .pause milliseconds => some (.pause milliseconds)
  | .hang => some .hang
  | _ => none

/-- What a deed does on the error output, if anything. -/
def stderrOf : Deed → Option StderrRead
  | .errorOutput bytes => some (.chunk bytes)
  | _ => none

/-- The report on a process that has ended, with all that was read of its error output. -/
def report (code : Option Int) (reads : List StderrRead) : ExitReport :=
  ⟨code, Utf8.decodeLossy (Capture.ofReads reads).held⟩

/-- How a process ends that goes on when it is told to end, and is killed after the grace period. -/
def outlast (code : Option Int) (reads : List StderrRead) (grace : Nat) : List Deed → ExitReport
  | [] => report code reads
  | .errorOutput bytes :: rest => outlast code (reads ++ [.chunk bytes]) grace rest
  -- A pause uses up the grace period; beyond it nothing is done any more.
  | .pause milliseconds :: rest =>
    if milliseconds ≤ grace then outlast code reads (grace - milliseconds) rest
    else report none reads
  | .hang :: _ => report none reads
  | _ :: rest => outlast code reads grace rest

/-- How a process ends that is told to end while it does nothing for `pause` milliseconds. -/
def respond (code : Option Int) (reads : List StderrRead) (grace pause : Nat) (rest : List Deed) :
    Response → ExitReport
  | .ends => report none reads
  | .ignores => outlast code reads grace (.pause pause :: rest)
  | .handles stderr ending =>
    if pause ≤ grace then
      let reads := reads ++ [.chunk stderr]
      match ending with
      | some code => report (some code) reads
      | none => outlast code reads (grace - pause) rest
    else report none reads

/-- How a process ends that is told to end once its first byte of output was read. -/
def terminatedFrom (code : Option Int) (grace : Nat) (seen : Bool) (response : Response)
    (reads : List StderrRead) : List Deed → ExitReport
  | [] => report code reads
  | .output bytes :: rest => terminatedFrom code grace (seen || !bytes.isEmpty) response reads rest
  | .errorOutput bytes :: rest =>
    terminatedFrom code grace seen response (reads ++ [.chunk bytes]) rest
  | .resolve response :: rest => terminatedFrom code grace seen response reads rest
  -- The process is told to end in the first pause behind the bytes that were read.
  | .pause milliseconds :: rest =>
    if seen then respond code reads grace milliseconds rest response
    else terminatedFrom code grace seen response reads rest
  | .hang :: rest => respond code reads grace (grace + 1) rest response

/-- How many milliseconds pass at least before a process does anything. -/
def startTime : Nat := 1

/-- The engine that a process is, where `grace` milliseconds lie between asking and killing it. -/
def toEngine (process : Process) (grace : Nat := 3000) : Engine :=
  { output := .pause startTime :: process.deeds.filterMap outputOf
    exit := .ok (report process.code (process.deeds.filterMap stderrOf))
    terminated := .ok (terminatedFrom process.code grace false .ends [] process.deeds)
    -- Every process has a number, and nothing hangs on which one it is.
    pid := some 1 }

end Process

end EngineClient
