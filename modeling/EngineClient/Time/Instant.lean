import EngineClient.Text.Digits
import EngineClient.Time.Calendar

/-! Instants and times of day as text. -/

namespace EngineClient

/-- The units in which time is counted. -/
inductive TimeUnit where
  | second
  | millisecond
  | microsecond
  | nanosecond
deriving DecidableEq, Repr

/-- How many nanoseconds a unit holds. -/
def TimeUnit.nanoseconds : TimeUnit → Nat
  | .second => 1000000000
  | .millisecond => 1000000
  | .microsecond => 1000
  | .nanosecond => 1

/-- A point in time, as a day and a time of that day. -/
structure Instant where
  /-- Days since the first of January 1970. -/
  days : Int
  /-- Seconds since midnight. -/
  seconds : Nat
  /-- Nanoseconds since the second began. -/
  nanoseconds : Nat
deriving DecidableEq, Repr

namespace Instant

/-- The point a number of nanoseconds after the first of January 1970 began. -/
def ofNanoseconds (count : Int) : Instant :=
  let seconds := count / 1000000000
  ⟨seconds / 86400, (seconds % 86400).toNat, (count % 1000000000).toNat⟩

/-- How many nanoseconds after the first of January 1970 began the point lies. -/
def toNanoseconds (instant : Instant) : Int :=
  (instant.days * 86400 + instant.seconds) * 1000000000 + instant.nanoseconds

/-- The point a number of units after the first of January 1970 began. -/
def ofUnits (unit : TimeUnit) (count : Int) : Instant :=
  ofNanoseconds (count * unit.nanoseconds)

/-- Hours, minutes and seconds. -/
def clock (seconds : Nat) : String :=
  Text.padded 2 (seconds / 3600) ++ ":" ++ Text.padded 2 (seconds / 60 % 60) ++ ":"
    ++ Text.padded 2 (seconds % 60)

/-- Month and day. -/
def monthDay (date : Date) : String :=
  "-" ++ Text.padded 2 date.month ++ "-" ++ Text.padded 2 date.day

/-- The instant in the form of RFC 3339 with as few decimals as it needs, if its year has one. -/
def rfc3339? (instant : Instant) : Option String :=
  let date := Date.ofDays instant.days
  if 0 ≤ date.year ∧ date.year ≤ 9999 then
    let fraction := if instant.nanoseconds = 0 then ""
      else "." ++ Text.fractionDigits 9 instant.nanoseconds
    some (Text.padded 4 date.year.toNat ++ monthDay date ++ "T" ++ clock instant.seconds ++ fraction
      ++ "Z")
  else none

/-- Decimals in one, two or three groups of three, as many as needed. -/
def groupedFraction (nanoseconds : Nat) : String :=
  if nanoseconds = 0 then ""
  else if nanoseconds % 1000000 = 0 then "." ++ Text.padded 3 (nanoseconds / 1000000)
  else if nanoseconds % 1000 = 0 then "." ++ Text.padded 6 (nanoseconds / 1000)
  else "." ++ Text.padded 9 nanoseconds

/-- A year in four digits, or with a sign and at least four digits. -/
def yearText (year : Int) : String :=
  if 0 ≤ year ∧ year ≤ 9999 then Text.padded 4 year.toNat
  else (if year < 0 then "-" else "+") ++ Text.padded 4 year.natAbs

/-- The day as text, whatever its year. -/
def dateText (days : Int) : String :=
  let date := Date.ofDays days
  yearText date.year ++ monthDay date

/-- A time of day as text. -/
def timeText (seconds nanoseconds : Nat) : String :=
  clock seconds ++ groupedFraction nanoseconds

/-- The instant as text without a zone, whatever its year. -/
def plainText (instant : Instant) : String :=
  dateText instant.days ++ "T" ++ timeText instant.seconds instant.nanoseconds

/-- Whether a day lies in the years for which there are texts. -/
def hasText (days : Int) : Bool :=
  let year := (Date.ofDays days).year
  -- The bounds leave a year free at each end of eighteen bits.
  (-262143 : Int) ≤ year ∧ year ≤ 262142

/-- The instant a number of seconds later. -/
def later (instant : Instant) (seconds : Int) : Instant :=
  let moved := instant.days * 86400 + instant.seconds + seconds
  ⟨moved / 86400, (moved % 86400).toNat, instant.nanoseconds⟩

/-- The instant as text in a zone that is some seconds ahead. -/
def zonedText (instant : Instant) (ahead : Int) : String :=
  (instant.later ahead).plainText ++
    if ahead = 0 then "Z"
    else (if ahead < 0 then "-" else "+") ++ Text.padded 2 (ahead.natAbs / 3600) ++ ":"
      ++ Text.padded 2 (ahead.natAbs / 60 % 60)

end Instant

/-- How many seconds ahead a zone is that is written as hours, or hours and minutes, under a sign. -/
def zoneOffset? (zone : String) : Option Int :=
  let digit (char : Char) : Option Nat :=
    if char.isDigit then some (char.toNat - '0'.toNat) else none
  let read (sign a b c d : Char) : Option Int := do
    let seconds := ((← digit a) * 10 + (← digit b)) * 3600 + ((← digit c) * 10 + (← digit d)) * 60
    if seconds < 86400 then
      if sign = '+' then some (seconds : Int) else if sign = '-' then some (-seconds) else none
    else none
  match zone.toList with
  | [sign, a, b, ':', c, d] => read sign a b c d
  | [sign, a, b, c, d] => read sign a b c d
  | [sign, a, b] => read sign a b '0' '0'
  | _ => none

end EngineClient
