import EngineClient.Time.Calendar
import Mathlib.Tactic.IntervalCases

/-! The date that a count of days gives is the one that the rules of the Gregorian calendar give. -/

namespace EngineClient

namespace Gregorian

/-- The days that are put in: a year has one if four divides it, but a century only if four hundred do. -/
def leapDays (year : Nat) : Nat :=
  if year % 4 = 0 ∧ (year % 100 ≠ 0 ∨ year % 400 = 0) then 1 else 0

/-- How many days a month has, January being one. -/
def daysInMonth (year : Nat) : Nat → Nat
  | 2 => 28 + leapDays year
  | 4 | 6 | 9 | 11 => 30
  | _ => 31

/-- How many days precede a year, from the first of January of year zero on. -/
def daysBeforeYear : Nat → Nat
  | 0 => 0
  | year + 1 => daysBeforeYear year + 365 + leapDays year

/-- How many days of a year precede a month. -/
def daysBeforeMonth (year : Nat) : Nat → Nat
  | 0 | 1 => 0
  | month + 2 => daysBeforeMonth year (month + 1) + daysInMonth year (month + 1)

/-- There is such a day in the calendar. -/
def IsDay (year month day : Nat) : Prop :=
  (1 ≤ month ∧ month ≤ 12) ∧ 1 ≤ day ∧ day ≤ daysInMonth year month

/-- Whether a day is in the calendar can be computed. -/
instance (year month day : Nat) : Decidable (IsDay year month day) :=
  inferInstanceAs (Decidable (_ ∧ _))

/-- How many days after the first of January of year zero a day lies. -/
def dayNumber (year month day : Nat) : Nat :=
  daysBeforeYear year + daysBeforeMonth year month + (day - 1)

/-- A year has a leap day more or none. -/
theorem leapDays_le (year : Nat) : leapDays year ≤ 1 := by
  unfold leapDays
  split <;> omega

/-- The days before a year are counted by its number alone. -/
theorem daysBeforeYear_eq (year : Nat) :
    daysBeforeYear year + (year + 99) / 100 = 365 * year + (year + 3) / 4 + (year + 399) / 400 := by
  -- Each step adds the leap day of the year that it passes.
  induction year with
  | zero => rfl
  | succ year ih =>
    rw [daysBeforeYear, leapDays]
    by_cases four : year % 4 = 0
    · by_cases century : year % 100 = 0
      · by_cases cycle : year % 400 = 0
        · rw [if_pos ⟨four, .inr cycle⟩]
          omega
        · rw [if_neg fun leap => leap.2.elim (· century) cycle]
          omega
      · rw [if_pos ⟨four, .inl century⟩]
        omega
    · -- None of the three quotients grows past such a year.
      have fours : (year + 1 + 3) / 4 = (year + 3) / 4 := by omega
      have centuries : (year + 1 + 99) / 100 = (year + 99) / 100 := by omega
      have cycles : (year + 1 + 399) / 400 = (year + 399) / 400 := by omega
      rw [if_neg fun leap => four leap.1, fours, centuries, cycles]
      omega

end Gregorian

open Gregorian

namespace Date

/-- A day of a cycle by its century, its leap cycle of four years, its year in there, and the day of
that year: only the last year may have a day more, if its leap day is not left out. -/
structure Parts (day century four year rest : Nat) : Prop where
  whole : day = 36524 * century + 1461 * four + 365 * year + rest
  inCycle : century < 4
  inCentury : four < 25
  inFour : year < 4
  inYear : rest < 365 ∨ rest = 365 ∧ year = 3 ∧ (four < 24 ∨ century = 3)

/-- Every day of a cycle has such parts. -/
theorem exists_parts {day : Nat} (inside : day < 146097) :
    ∃ century four year rest, Parts day century four year rest := by
  -- The last century has a day more than the others, and the last year one more than those before it.
  obtain ⟨century, left, one, whole, within⟩ : ∃ century left, century < 4 ∧
      day = 36524 * century + left ∧ (left < 36524 ∨ left = 36524 ∧ century = 3) :=
    ⟨min (day / 36524) 3, day - 36524 * min (day / 36524) 3, by omega, by omega, by omega⟩
  obtain ⟨four, rest, two, split, short⟩ : ∃ four rest, four < 25 ∧ left = 1461 * four + rest ∧
      (rest < 1460 ∨ rest = 1460 ∧ (four < 24 ∨ century = 3)) :=
    ⟨left / 1461, left % 1461, by omega, by omega, by omega⟩
  refine ⟨century, four, min (rest / 365) 3, rest - 365 * min (rest / 365) 3, ?_, one, two, ?_, ?_⟩
  all_goals omega

section

variable {day century four year rest : Nat}

/-- The year of a day is the one that its parts make up. -/
theorem Parts.yearOfCycle_eq (parts : Parts day century four year rest) :
    yearOfCycle day = 100 * century + 4 * four + year := by
  obtain ⟨whole, inCycle, inCentury, inFour, inYear⟩ := parts
  -- The last day of the cycle counts for a century more, which is taken back.
  have short : 1461 * four + 365 * year + rest < 36524 ∨ century = 3 ∧ day = 146096 := by omega
  have centuries : day / 36524 = century + day / 146096 := by
    rcases short with short | ⟨last, same⟩ <;> omega
  -- The leap days before the day are taken out, or one of them too many in the last year of four.
  have split : day = 1460 * (25 * century + four) + (24 * century + four + 365 * year + rest) := by
    omega
  have fours : day / 1460 = 25 * century + four ∧ 365 * year + rest < 1460 ∨
      day / 1460 = 25 * century + four + 1 ∧ year = 3 ∧ 1 ≤ rest := by
    clear whole centuries short
    omega
  unfold yearOfCycle
  rcases fours with ⟨fours, early⟩ | ⟨fours, last, some⟩ <;> omega

/-- The days before that year are those of the parts above it. -/
theorem Parts.daysBefore_eq (parts : Parts day century four year rest) :
    daysBefore (100 * century + 4 * four + year) = 36524 * century + 1461 * four + 365 * year := by
  obtain ⟨whole, inCycle, inCentury, inFour, inYear⟩ := parts
  unfold daysBefore
  omega

/-- A day from March on in a year is counted with the leap day of that year. -/
theorem Parts.dayNumber_late (parts : Parts day century four year rest) {cycles : Int}
    {number civil : Nat} (counted : (number : Int) = 146097 * cycles + day + 60)
    (named : (civil : Int) = 400 * cycles + (100 * century + 4 * four + year)) :
    daysBeforeYear civil + leapDays civil + 59 + rest = number := by
  obtain ⟨whole, inCycle, inCentury, inFour, inYear⟩ := parts
  -- The days up to the end of the year are those before the next one.
  have next := daysBeforeYear_eq (civil + 1)
  rw [daysBeforeYear] at next
  omega

/-- A day before March is counted without it, as a day of the year that began the March before. -/
theorem Parts.dayNumber_early (parts : Parts day century four year rest) {cycles : Int}
    {number civil : Nat} (counted : (number : Int) = 146097 * cycles + day + 60)
    (named : (civil : Int) = 400 * cycles + (100 * century + 4 * four + year) + 1) :
    daysBeforeYear civil + rest = number + 306 ∧ (rest = 365 → leapDays civil = 1) := by
  obtain ⟨whole, inCycle, inCentury, inFour, inYear⟩ := parts
  have before := daysBeforeYear_eq civil
  refine ⟨by omega, ?_⟩
  -- Only a leap year has a last day of that number.
  intro last
  rw [leapDays, if_pos (by omega)]

/-- The date of a day is made of the parts of the day in its cycle. -/
theorem Parts.ofDays_eq (parts : Parts day century four year rest) {cycles days : Int}
    (counted : days + 719468 = 146097 * cycles + day) :
    ofDays days =
      { year := 400 * cycles + (100 * century + 4 * four + year)
          + (if monthOfYear rest < 10 then 0 else 1)
        month := if monthOfYear rest < 10 then monthOfYear rest + 3 else monthOfYear rest - 9
        day := rest - daysBeforeMonth (monthOfYear rest) + 1 } := by
  have inside : day < 146097 := by
    obtain ⟨whole, inCycle, inCentury, inFour, inYear⟩ := parts
    omega
  -- The whole cycles are counted first, and the parts are those of the days left.
  have quotient : (days + 719468) / 146097 = cycles := by omega
  have remainder : ((days + 719468) % 146097).toNat = day := by omega
  have left : day - daysBefore (100 * century + 4 * four + year) = rest := by
    rw [parts.daysBefore_eq, parts.whole]
    omega
  simp only [ofDays, epoch, cycle, quotient, remainder, parts.yearOfCycle_eq, left]
  congr 2
  push_cast
  omega

end

/-- The date is a day of the calendar, and lies a number of days after the first of January of year
zero. -/
def Names (date : Date) (number : Nat) : Prop :=
  ∃ year : Nat, date.year = year ∧ IsDay year date.month date.day ∧
    dayNumber year date.month date.day = number

/-- The date that a count of days gives lies that many days after the first of January 1970. -/
theorem ofDays_names (number : Nat) : (ofDays (number - daysBeforeYear 1970)).Names number := by
  have unix : daysBeforeYear 1970 = 719528 := by
    have counted := daysBeforeYear_eq 1970
    omega
  -- The days are counted from the first of March of year zero.
  obtain ⟨cycles, day, inside, counted⟩ : ∃ (cycles : Int) (day : Nat), day < 146097 ∧
      (number : Int) = 146097 * cycles + day + 60 :=
    ⟨((number : Int) - 60) / 146097, (((number : Int) - 60) % 146097).toNat, by omega, by omega⟩
  obtain ⟨century, four, year, rest, parts⟩ := exists_parts inside
  have shifted : (number : Int) - (719528 : Nat) + 719468 = 146097 * cycles + day := by omega
  rw [unix, parts.ofDays_eq shifted]
  -- The month is found by the days before it, of which each five months have 153.
  have found : 153 * monthOfYear rest ≤ 5 * rest + 2 ∧ 5 * rest + 2 < 153 * (monthOfYear rest + 1) := by
    unfold monthOfYear
    omega
  obtain ⟨whole, inCycle, inCentury, inFour, inYear⟩ := id parts
  -- The cycle before year zero has only the January and the February of that year.
  have first : 0 ≤ cycles ∨ cycles = -1 ∧ 145731 + rest = day ∧ 306 ≤ rest := by
    rcases Int.lt_or_le cycles 0 with before | behind
    · have last : cycles = -1 ∧ 146037 ≤ day := by omega
      obtain rfl : century = 3 := by omega
      obtain rfl : four = 24 := by omega
      obtain rfl : year = 3 := by omega
      omega
    · exact .inl behind
  generalize monthOfYear rest = month at found
  by_cases late : month < 10
  · -- From March on the year is the one that the parts make up.
    obtain ⟨civil, named⟩ : ∃ civil : Nat,
        400 * cycles + (100 * century + 4 * four + year) = (civil : Int) :=
      Int.eq_ofNat_of_zero_le (by omega)
    have counts := parts.dayNumber_late counted named.symm
    refine ⟨civil, by simp [late, named], ?_, ?_⟩
    all_goals simp only [if_pos late]
    · interval_cases month <;> simp only [IsDay, daysInMonth, daysBeforeMonth] <;> omega
    · interval_cases month
      all_goals
        simp only [dayNumber, Gregorian.daysBeforeMonth, daysInMonth, daysBeforeMonth]
        omega
  · -- January and February belong to the year behind it.
    obtain ⟨civil, named⟩ : ∃ civil : Nat,
        400 * cycles + (100 * century + 4 * four + year) + 1 = (civil : Int) :=
      Int.eq_ofNat_of_zero_le (by omega)
    obtain ⟨counts, last⟩ := parts.dayNumber_early counted named.symm
    refine ⟨civil, by simp [late, named], ?_, ?_⟩
    all_goals
      simp only [if_neg late]
      have most : month ≤ 11 := by omega
    · interval_cases month <;> simp only [IsDay, daysInMonth, daysBeforeMonth, Nat.reduceSub] <;> omega
    · interval_cases month
      all_goals
        simp only [dayNumber, Gregorian.daysBeforeMonth, daysInMonth, daysBeforeMonth, Nat.reduceSub]
        omega

end Date

end EngineClient
