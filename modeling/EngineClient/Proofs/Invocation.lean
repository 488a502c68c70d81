import EngineClient.Client
import EngineClient.Engine.StartFault
import EngineClient.Proofs.Engine.Exit
import EngineClient.Proofs.Text.Quoted

/-! A command line as it is shown tells the arguments that the program is started with. -/

namespace EngineClient.Invocation

/-- A failure that shows the command line: of a start, an end, a timeout, a status or an export. -/
inductive ShownBy (invocation : Invocation) : Error → Prop where
  | start (fault : StartFault) : ShownBy invocation (fault.toError invocation)
  | exit {report : ExitReport} {error : Error} (checked : report.check invocation = .error error) :
    ShownBy invocation error
  | timeout (limit : Nat) : ShownBy invocation (Engine.timeoutError invocation limit)
  | status {output : Bytes} {error : Error}
    (unread : Client.readStatus invocation output = .error error) : ShownBy invocation error
  | cancelled {session : Session} (own : session.invocation = invocation) :
    ShownBy invocation session.cancelledError
  | failed {session : Session} (own : session.invocation = invocation) (kind : ErrorKind)
    (reason : String) : ShownBy invocation (session.failedError kind reason)
  | ended {session : Session} (own : session.invocation = invocation) (stderr : String) :
    ShownBy invocation (session.endedError stderr)

/-- What follows an argument that is shown: nothing, or the space before the next one. -/
def IsApart (rest : List Char) : Prop :=
  ∀ char, rest.head? = some char → char = ' '

section

variable {text other rest behind : List Char} {invocation : Invocation} {error : Error}

/-- An argument is shown bare only if it has something in it, and neither a blank nor a quote. -/
theorem needsQuotes_eq_false_iff :
    needsQuotes text = false ↔
      text ≠ [] ∧ ∀ char ∈ text, Text.isBlank char = false ∧ char ≠ '"' := by
  simp [needsQuotes]

/-- A bare argument does not begin with a quote. -/
theorem bare_ne_quoteList (bare : needsQuotes text = false) :
    text ++ rest ≠ Quoted.quoteList other ++ behind := by
  obtain ⟨filled, all⟩ := needsQuotes_eq_false_iff.mp bare
  intro same
  -- Its first character would be the quote.
  cases text with
  | nil => exact filled rfl
  | cons char text =>
    have first : char = '"' := (List.cons.inj same).1
    exact (all char List.mem_cons_self).2 first

/-- Bare arguments end where the first space is, or where nothing follows. -/
theorem bare_append_inj (one : needsQuotes text = false) (two : needsQuotes other = false)
    (apart : IsApart rest) (apart' : IsApart behind) (same : text ++ rest = other ++ behind) :
    text = other ∧ rest = behind := by
  -- A bare argument is what stands before the first space.
  have ends {text rest : List Char} (bare : needsQuotes text = false) (apart : IsApart rest) :
      (text ++ rest).takeWhile (· ≠ ' ') = text := by
    -- No character of the argument is a space, and what follows it begins with one.
    have inside : ∀ char ∈ text, decide (char ≠ ' ') = true := by
      intro char member
      have dense := ((needsQuotes_eq_false_iff.mp bare).2 char member).1
      apply decide_eq_true
      rintro rfl
      exact absurd dense (by decide)
    rw [List.takeWhile_append_of_pos inside]
    cases rest with
    | nil => simp
    | cons char rest =>
      have space := apart char rfl
      simp [space]
  -- So both arguments are the same part of the same text.
  have texts := congrArg (List.takeWhile (· ≠ ' ')) same
  rw [ends one apart, ends two apart'] at texts
  subst texts
  exact ⟨rfl, List.append_cancel_left same⟩

/-- An argument as it is shown and what follows it tell the argument and what follows it. -/
theorem displayArg_append_inj (apart : IsApart rest) (apart' : IsApart behind)
    (same : displayArg text ++ rest = displayArg other ++ behind) : text = other ∧ rest = behind := by
  unfold displayArg at same
  -- One is not shown in quotes and the other bare, as only one of them would begin with a quote.
  split at same <;> split at same
  · -- Two quoted arguments end at their closing quotes.
    exact Quoted.quoteList_append_inj same
  · rename_i quoted bare
    exact absurd same.symm (bare_ne_quoteList (Bool.eq_false_iff.mpr bare))
  · rename_i bare quoted
    exact absurd same (bare_ne_quoteList (Bool.eq_false_iff.mpr bare))
  · rename_i one two
    exact bare_append_inj (Bool.eq_false_iff.mpr one) (Bool.eq_false_iff.mpr two) apart apart' same

/-- Arguments as they are shown begin with a space, if there are any. -/
theorem isApart_displayArgs (args : List String) : IsApart (displayArgs args) := by
  intro char head
  cases args with
  | nil => cases head
  | cons arg args => exact (Option.some.inj head).symm

/-- Arguments as they are shown tell the arguments. -/
theorem displayArgs_inj {args others : List String} (same : displayArgs args = displayArgs others) :
    args = others := by
  -- One argument after the other is taken off both sides.
  induction args generalizing others with
  | nil => cases others with
    | nil => rfl
    | cons other others => cases same
  | cons arg args ih => cases others with
    | nil => cases same
    | cons other others =>
      -- Each argument has a space before it.
      have behind := List.tail_eq_of_cons_eq same
      obtain ⟨first, rest⟩ :=
        displayArg_append_inj (isApart_displayArgs args) (isApart_displayArgs others) behind
      rw [String.toList_inj.mp first, ih rest]

/-- A failure that shows the command line has it as its input. -/
theorem ShownBy.input_eq (shown : ShownBy invocation error) :
    error.input = some invocation.display := by
  cases shown with
  | start fault => rfl
  | exit checked =>
    -- Only an end that is a failure is reported.
    simp only [ExitReport.check] at checked
    split at checked
    · cases checked
    · cases checked
      rw [Error.withStderr_input]
  | timeout limit => rfl
  | status unread =>
    -- Only an output that is no document is reported.
    simp only [Client.readStatus] at unread
    split at unread
    · cases unread
    · cases unread
      rfl
  | cancelled own => rw [Session.cancelledError, own]
  | failed own kind reason => rw [Session.failedError, own]
  | ended own stderr => rw [Session.endedError, own, Error.withStderr_input]

end

/-- Two command lines of one program are shown alike exactly if they have the same arguments, and so
do failures that show them. -/
theorem display_tells_args (program : String) (args others : List String) :
    (display ⟨program, args⟩ = display ⟨program, others⟩ ↔ args = others) ∧
    ∀ one two, ShownBy ⟨program, args⟩ one → ShownBy ⟨program, others⟩ two →
      (one.input = two.input ↔ args = others) := by
  have lines : display ⟨program, args⟩ = display ⟨program, others⟩ ↔ args = others := by
    constructor
    · intro same
      -- The program is shown alike in front of both, so what is left are the arguments.
      have chars := congrArg String.toList same
      simp only [display, String.toList_ofList] at chars
      exact displayArgs_inj (List.append_cancel_left chars)
    · intro same
      rw [same]
  refine ⟨lines, ?_⟩
  intro one two first second
  -- The input of a failure is the command line.
  rw [first.input_eq, second.input_eq, Option.some.injEq, lines]

end EngineClient.Invocation
