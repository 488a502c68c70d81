import EngineClient.Decimal.Binary

/-! The shortest decimal digits that read back as a given binary number. -/

namespace EngineClient.Shortest

/-- A decimal number `digits * 10 ^ exponent`. -/
structure Decimal where
  /-- The digits as one number. -/
  digits : Nat
  /-- The place of the last digit. -/
  exponent : Int
deriving DecidableEq, Repr

/-- The numbers that round to one binary number, on a common denominator. -/
structure Interval where
  /-- The numerator of the binary number itself. -/
  value : Nat
  /-- The numerator of the lower end. -/
  low : Nat
  /-- The numerator of the upper end. -/
  high : Nat
  /-- The denominator of all three. -/
  den : Nat
  /-- Whether the ends round to the number too. -/
  closed : Bool

/-- The numbers that round to `significand * 2 ^ exponent`. -/
def Interval.around (format : FloatFormat) (significand : Nat) (exponent : Int) : Interval :=
  -- Quarters of a unit suffice: below a power of two the neighbour is only half as far away.
  let below := if significand = Nat.pow 2 format.fraction ∧ format.leastExponent < exponent then 1 else 2
  let (scale, den) := match exponent - 2 with
    | .ofNat up => (Nat.pow 2 up, 1)
    | .negSucc down => (1, Nat.pow 2 (down + 1))
  { value := 4 * significand * scale, low := (4 * significand - below) * scale
    high := (4 * significand + 2) * scale, den, closed := significand % 2 = 0 }

/-- Whether the fraction `num / den` rounds to the number. -/
def Interval.holds (interval : Interval) (num den : Nat) : Bool :=
  let low := interval.low * den
  let high := interval.high * den
  let point := num * interval.den
  if interval.closed then low ≤ point && point ≤ high else low < point && point < high

/-- The best point of the interval on the grid of multiples of `10 ^ place`, if one lies in it. -/
def Interval.onGrid (interval : Interval) (place : Int) : Option Decimal :=
  let (up, down) := match place with
    | .ofNat up => (Nat.pow 10 up, 1)
    | .negSucc down => (1, Nat.pow 10 (down + 1))
  -- A grid point `k` is the fraction `k * up / down`.
  let floor := interval.value * down / (interval.den * up)
  let below := interval.holds (floor * up) down
  let above := interval.holds ((floor + 1) * up) down
  let rest := 2 * (interval.value * down - floor * (interval.den * up))
  let unit := interval.den * up
  match below, above with
  | true, false => some ⟨floor, place⟩
  | false, true => some ⟨floor + 1, place⟩
  | false, false => none
  | true, true =>
    -- Of two points the nearer is taken, and at a tie the even one.
    if rest < unit ∨ (rest = unit ∧ floor % 2 = 0) then some ⟨floor, place⟩
    else some ⟨floor + 1, place⟩

/-- Searches finer and finer grids, `steps` of them, from the given place downwards. -/
def search (interval : Interval) (place : Int) : Nat → Decimal
  | 0 => ⟨0, 0⟩
  | steps + 1 =>
    match interval.onGrid place with
    | some found => found
    | none => search interval (place - 1) steps

/-- The decimal number with the fewest digits that rounds to `significand * 2 ^ exponent`. -/
def shortest (format : FloatFormat) (significand : Nat) (exponent : Int) : Decimal :=
  if significand = 0 then ⟨0, 0⟩
  else
    let interval := Interval.around format significand exponent
    -- The first place lies above the number, and seventeen digits always suffice.
    let size := (interval.value.log2 : Int) - interval.den.log2 + 1
    search interval (size * 30103 / 100000 + 1) 24

end EngineClient.Shortest
