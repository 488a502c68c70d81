import EngineClient.Proofs.Text.Digits
import EngineClient.Proofs.Time.Calendar
import EngineClient.Time.Instant

/-! An instant in the form of RFC 3339 is read back, if its year has four digits. -/

namespace EngineClient

open Gregorian
open Text (readNumber? expect? readFraction?)

namespace Rfc3339

/-- Reads a day as a number of days after the first of January of year zero. -/
def readDate? (text : List Char) : Option (Nat × List Char) := do
  let (year, text) ← readNumber? 4 text
  let text ← expect? '-' text
  let (month, text) ← readNumber? 2 text
  let text ← expect? '-' text
  let (day, text) ← readNumber? 2 text
  guard (IsDay year month day)
  return (dayNumber year month day, text)

/-- Reads a time of day as a number of seconds. -/
def readClock? (text : List Char) : Option (Nat × List Char) := do
  let (hour, text) ← readNumber? 2 text
  let text ← expect? ':' text
  let (minute, text) ← readNumber? 2 text
  let text ← expect? ':' text
  let (second, text) ← readNumber? 2 text
  guard (hour < 24 ∧ minute < 60 ∧ second < 60)
  return (3600 * hour + 60 * minute + second, text)

/-- Reads an instant in universal time as a number of nanoseconds after the first of January 1970. -/
def read? (text : List Char) : Option Int := do
  let (days, text) ← readDate? text
  let text ← expect? 'T' text
  let (seconds, text) ← readClock? text
  let (nanoseconds, text) ← readFraction? 9 text
  let text ← expect? 'Z' text
  guard (text = [])
  return (((days : Int) - daysBeforeYear 1970) * 86400 + seconds) * 1000000000 + nanoseconds

/-- The first nanosecond of a year, counted from the first of January 1970 on. -/
def startOf (year : Nat) : Int :=
  ((daysBeforeYear year : Int) - daysBeforeYear 1970) * 86400 * 1000000000

/-- An instant lies in the years that have four digits. -/
def InYears (instant : Int) : Prop :=
  startOf 0 ≤ instant ∧ instant < startOf 10000

/-- A time of day is read back. -/
theorem readClock?_clock {seconds : Nat} (inDay : seconds < 86400) (rest : List Char) :
    readClock? ((Instant.clock seconds).toList ++ rest) = some (seconds, rest) := by
  -- Each of the numbers has two digits.
  have hour : seconds / 3600 < Nat.pow 10 2 := show _ < 100 by omega
  have minute : seconds / 60 % 60 < Nat.pow 10 2 := show _ < 100 by omega
  have second : seconds % 60 < Nat.pow 10 2 := show _ < 100 by omega
  have colon : ":".toList = [':'] := rfl
  have proper : seconds / 3600 < 24 ∧ seconds / 60 % 60 < 60 ∧ seconds % 60 < 60 := by omega
  have whole : 3600 * (seconds / 3600) + 60 * (seconds / 60 % 60) + seconds % 60 = seconds := by
    omega
  -- Each of the three numbers is read back, and the colons are taken off between them.
  simp only [readClock?, Instant.clock, String.toList_append, List.append_assoc, colon,
    List.cons_append, List.nil_append, Text.readNumber?_padded Nat.two_pos hour,
    Text.readNumber?_padded Nat.two_pos minute, Text.readNumber?_padded Nat.two_pos second,
    Text.expect?_cons, Option.bind_eq_bind, Option.bind_some, guard, if_pos proper, whole]
  rfl

/-- A date in the years of four digits is read back. -/
theorem readDate?_names {date : Date} {number : Nat} (names : date.Names number)
    (early : date.year ≤ 9999) (rest : List Char) :
    readDate? ((Text.padded 4 date.year.toNat).toList ++ (Instant.monthDay date).toList ++ rest)
      = some (number, rest) := by
  obtain ⟨year, same, proper, counted⟩ := names
  have long : year < Nat.pow 10 4 := show year < 10000 by omega
  have days : daysInMonth year date.month ≤ 31 := by
    have leap := leapDays_le year
    unfold daysInMonth
    split <;> omega
  -- Month and day have two digits each, as there are twelve months of at most 31 days.
  obtain ⟨⟨first, last⟩, least, most⟩ := id proper
  have month : date.month < Nat.pow 10 2 := show _ < 100 by omega
  have day : date.day < Nat.pow 10 2 := show _ < 100 by omega
  have dash : "-".toList = ['-'] := rfl
  have number : date.year.toNat = year := by omega
  -- The numbers are read back, and the dashes are taken off between them.
  simp only [readDate?, Instant.monthDay, String.toList_append, List.append_assoc, dash,
    List.cons_append, List.nil_append, number, Text.readNumber?_padded (show 0 < 4 by decide) long,
    Text.readNumber?_padded Nat.two_pos month, Text.readNumber?_padded Nat.two_pos day,
    Text.expect?_cons, Option.bind_eq_bind, Option.bind_some, guard, if_pos proper, counted]
  rfl

/-- The decimals of a second are read back, in front of the letter for universal time. -/
theorem readFraction?_fraction {nanoseconds : Nat} (inSecond : nanoseconds < 1000000000) :
    readFraction? 9 ((if nanoseconds = 0 then ""
        else "." ++ Text.fractionDigits 9 nanoseconds).toList ++ ['Z'])
      = some (nanoseconds, ['Z']) := by
  by_cases none : nanoseconds = 0
  · -- Without decimals there is no point, which the letter is not.
    rw [if_pos none, none]
    rfl
  · have point : ".".toList = ['.'] := rfl
    have fits : nanoseconds < Nat.pow 10 9 := inSecond
    -- The letter behind the decimals is no digit.
    have apart : ∀ char, ['Z'].head? = some char → char.isDigit = false := by
      rintro _ ⟨⟩
      rfl
    rw [if_neg none, String.toList_append, point]
    exact Text.readFraction?_fractionDigits (Nat.pos_of_ne_zero none) fits apart

/-- A year of which a day lies before the first day of year ten thousand has four digits. -/
theorem year_le {date : Date} {number : Nat} (names : date.Names number)
    (early : number < daysBeforeYear 10000) : 0 ≤ date.year ∧ date.year ≤ 9999 := by
  obtain ⟨year, same, proper, counted⟩ := names
  -- The year began on that day or before it.
  have before : daysBeforeYear year ≤ number := by
    rw [← counted, dayNumber, Nat.add_assoc]
    exact Nat.le_add_right _ _
  have counts := daysBeforeYear_eq year
  have bound := daysBeforeYear_eq 10000
  omega

/-- The years of four digits in nanoseconds. -/
theorem inYears_iff (instant : Int) :
    InYears instant ↔ -62167219200000000000 ≤ instant ∧ instant < 253402300800000000000 := by
  have none : daysBeforeYear 0 = 0 := rfl
  have unix := daysBeforeYear_eq 1970
  have last := daysBeforeYear_eq 10000
  -- The bounds are the starts of the two years in nanoseconds.
  unfold InYears startOf
  omega

/-- A point in time before year ten thousand has a text, which is read back as its nanoseconds. -/
theorem read?_rfc3339? {point : Instant} {number : Nat}
    (days : point.days = number - daysBeforeYear 1970) (early : number < daysBeforeYear 10000)
    (inDay : point.seconds < 86400) (inSecond : point.nanoseconds < 1000000000) :
    ∃ text, point.rfc3339? = some text ∧ read? text.toList = some point.toNanoseconds := by
  -- The date of the days is the day of that number.
  have names := Date.ofDays_names number
  rw [← days] at names
  have inside := year_le names early
  have letter : "T".toList = ['T'] := rfl
  have zone : "Z".toList = ['Z'] := rfl
  refine ⟨_, if_pos inside, ?_⟩
  -- The four parts of the text are read one after the other.
  simp only [read?, String.toList_append, List.append_assoc, letter, zone]
  rw [← List.append_assoc, readDate?_names names inside.2]
  simp only [List.cons_append, List.nil_append, Option.bind_eq_bind, Option.bind_some,
    Text.expect?_cons, readClock?_clock inDay, readFraction?_fraction inSecond, guard, ← days]
  rfl

/-- An instant of the years of four digits has a text, which is read back as that instant. -/
theorem read?_ofNanoseconds {instant : Int} (inYears : InYears instant) :
    ∃ text, (Instant.ofNanoseconds instant).rfc3339? = some text ∧
      read? text.toList = some instant := by
  obtain ⟨behind, before⟩ := (inYears_iff instant).mp inYears
  have unix := daysBeforeYear_eq 1970
  have last := daysBeforeYear_eq 10000
  -- The days are those after the first of January of year zero.
  obtain ⟨number, counted⟩ : ∃ number : Nat,
      instant / 1000000000 / 86400 + daysBeforeYear 1970 = (number : Int) :=
    Int.eq_ofNat_of_zero_le (by omega)
  have early : number < daysBeforeYear 10000 := by omega
  have days : (Instant.ofNanoseconds instant).days = number - daysBeforeYear 1970 :=
    eq_sub_of_add_eq counted
  -- What is left of a day and of a second is less than one.
  have inDay : (Instant.ofNanoseconds instant).seconds < 86400 := by
    show (instant / 1000000000 % 86400).toNat < 86400
    omega
  have inSecond : (Instant.ofNanoseconds instant).nanoseconds < 1000000000 := by
    show (instant % 1000000000).toNat < 1000000000
    omega
  have whole : (Instant.ofNanoseconds instant).toNanoseconds = instant := by
    simp only [Instant.ofNanoseconds, Instant.toNanoseconds]
    omega
  obtain ⟨text, same, read⟩ := read?_rfc3339? days early inDay inSecond
  exact ⟨text, same, read.trans (congrArg some whole)⟩

example : read? "1969-12-31T23:59:59.5Z".toList = some (-500000000) := by decide +kernel

end Rfc3339

end EngineClient
