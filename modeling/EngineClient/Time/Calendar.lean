/-! The proleptic Gregorian calendar, counted in days from the first of January 1970. -/

namespace EngineClient

/-- A day of the calendar; year zero precedes year one. -/
structure Date where
  /-- The year. -/
  year : Int
  /-- The month, January being one. -/
  month : Nat
  /-- The day of the month, from one. -/
  day : Nat
deriving DecidableEq, Repr

namespace Date

/-- How many days lie between the first of March of year zero and the first of January 1970. -/
def epoch : Int := 719468

/-- The days in four hundred years, after which the calendar repeats. -/
def cycle : Int := 146097

/-- The year of a day of a cycle; a year begins in March, so that a leap day ends it. -/
def yearOfCycle (day : Nat) : Nat :=
  (day - day / 1460 + day / 36524 - day / 146096) / 365

/-- How many days of a cycle precede one of its years. -/
def daysBefore (year : Nat) : Nat :=
  365 * year + year / 4 - year / 100

/-- The month of a day of a year that begins in March, March being zero. -/
def monthOfYear (day : Nat) : Nat :=
  (5 * day + 2) / 153

/-- How many days of a year that begins in March precede one of its months. -/
def daysBeforeMonth (month : Nat) : Nat :=
  (153 * month + 2) / 5

/-- The day that lies a number of days after the first of January 1970. -/
def ofDays (days : Int) : Date :=
  let shifted := days + epoch
  let dayOfCycle := (shifted % cycle).toNat
  let year := yearOfCycle dayOfCycle
  let dayOfYear := dayOfCycle - daysBefore year
  let month := monthOfYear dayOfYear
  -- January and February are the last two months of the year that begins in March.
  { year := shifted / cycle * 400 + year + (if month < 10 then 0 else 1)
    month := if month < 10 then month + 3 else month - 9
    day := dayOfYear - daysBeforeMonth month + 1 }

end Date

end EngineClient
