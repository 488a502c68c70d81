import EngineClient.Text.Digits

/-! Spans of time as text. -/

namespace EngineClient.Span

/-- A span in seconds in the form of ISO 8601, with as few decimals as it needs. -/
def iso8601 (nanoseconds : Int) : String :=
  if nanoseconds = 0 then "P0D"
  else
    let whole := nanoseconds.natAbs / 1000000000
    let rest := nanoseconds.natAbs % 1000000000
    (if nanoseconds < 0 then "-PT" else "PT") ++ toString whole
      ++ (if rest = 0 then "" else "." ++ Text.fractionDigits 9 rest) ++ "S"

/-- A number of months as years and months; the months are never negative. -/
def yearMonth (months : Int) : String :=
  toString (months / 12) ++ " years " ++ toString (months % 12) ++ " mons"

/-- A count and its unit, left out where there is nothing to count. -/
def part (count : Int) (unit : String) : List String :=
  if count = 0 then [] else [toString count ++ " " ++ unit]

/-- The hours, minutes and seconds of a count of fractions of a second, those that are zero left out. -/
def clockParts (places : Nat) (count : Int) : List String :=
  let unit : Int := (Nat.pow 10 places : Nat)
  let seconds := count.tdiv unit
  let rest := count.tmod unit
  let minutes := seconds.tdiv 60
  -- All parts round toward zero, so that each has the sign of the whole.
  let clock := if seconds.tmod 60 = 0 ∧ rest = 0 then []
    else [(if count < 0 then "-" else "") ++ toString (seconds.tmod 60).natAbs ++ "."
      ++ Text.padded places rest.natAbs ++ " secs"]
  part (minutes.tdiv 60) "hours" ++ part (minutes.tmod 60) "mins" ++ clock

/-- A number of days and of milliseconds. -/
def dayTime (days milliseconds : Int) : String :=
  " ".intercalate (part days "days" ++ clockParts 3 milliseconds)

/-- A number of months, of days and of nanoseconds. -/
def monthDayNano (months days nanoseconds : Int) : String :=
  " ".intercalate (part months "mons" ++ part days "days" ++ clockParts 9 nanoseconds)

end EngineClient.Span
