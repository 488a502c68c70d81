/-! Binary floating-point formats: the values that bit patterns stand for, and rounding to them. -/

namespace EngineClient

/-- A binary format with a sign bit, an exponent field and a fraction field. -/
structure FloatFormat where
  /-- How many bits the fraction field has. -/
  fraction : Nat
  /-- How many bits the exponent field has. -/
  exponent : Nat
deriving DecidableEq, Repr

/-- What a bit pattern stands for. -/
inductive FloatValue where
  /-- The number `significand * 2 ^ exponent`, negated if so marked. -/
  | finite (negative : Bool) (significand : Nat) (exponent : Int)
  /-- A number beyond the greatest finite one. -/
  | infinite (negative : Bool)
  /-- No number. -/
  | nan
deriving DecidableEq, Repr

namespace FloatFormat

/-- The sixteen-bit format. -/
def half : FloatFormat := ⟨10, 5⟩

/-- The thirty-two-bit format. -/
def single : FloatFormat := ⟨23, 8⟩

/-- The sixty-four-bit format. -/
def double : FloatFormat := ⟨52, 11⟩

/-- The exponent of the last place of the smallest numbers. -/
def leastExponent (format : FloatFormat) : Int :=
  2 - (Nat.pow 2 (format.exponent - 1) : Nat) - (format.fraction : Nat)

/-- The magnitude bits of infinity. -/
def infinityBits (format : FloatFormat) : Nat :=
  (Nat.pow 2 format.exponent - 1) * Nat.pow 2 format.fraction

/-- The weight of the sign bit. -/
def signBit (format : FloatFormat) : Nat :=
  Nat.pow 2 (format.exponent + format.fraction)

/-- Reads a bit pattern. -/
def decode (format : FloatFormat) (bits : Nat) : FloatValue :=
  let negative := bits / format.signBit % 2 = 1
  let field := bits / Nat.pow 2 format.fraction % Nat.pow 2 format.exponent
  let fraction := bits % Nat.pow 2 format.fraction
  -- The greatest field marks what is not finite, and field zero has no hidden leading bit.
  if field = Nat.pow 2 format.exponent - 1 then
    if fraction = 0 then .infinite negative else .nan
  else if field = 0 then .finite negative fraction format.leastExponent
  else .finite negative (Nat.pow 2 format.fraction + fraction) (format.leastExponent + field - 1)

/-- A quotient rounded to the nearest natural number, a half to the even one. -/
def roundQuotient (num den : Nat) : Nat :=
  let quotient := num / den
  let twice := 2 * (num % den)
  if den < twice ∨ (twice = den ∧ quotient % 2 = 1) then quotient + 1 else quotient

/-- The fraction `num / den` counted in units of `2 ^ exponent`, as a fraction again. -/
def inUnits (num den : Nat) (exponent : Int) : Nat × Nat :=
  match exponent with
  | .ofNat up => (num, den * Nat.pow 2 up)
  | .negSucc down => (num * Nat.pow 2 (down + 1), den)

/-- The magnitude bits of the number nearest to `num / den`, a tie to the even pattern. -/
def roundRatio (format : FloatFormat) (num den : Nat) : Nat :=
  if num = 0 then 0
  else
    -- The quotient of the leading places is off by at most one binary place.
    let guess := (num.log2 : Int) - den.log2 - format.fraction
    let scaled := inUnits num den guess
    let exponent := max format.leastExponent
      (if scaled.1 / scaled.2 < Nat.pow 2 format.fraction then guess - 1 else guess)
    let (n, d) := inUnits num den exponent
    -- A carry out of the significand moves into the exponent field by itself.
    let bits := (exponent - format.leastExponent).toNat * Nat.pow 2 format.fraction + roundQuotient n d
    min bits format.infinityBits

/-- Magnitude bits under a sign. -/
def signed (format : FloatFormat) (negative : Bool) (magnitude : Nat) : Nat :=
  if negative then format.signBit + magnitude else magnitude

/-- The bit pattern of the number nearest to a value. -/
def encode (format : FloatFormat) : FloatValue → Nat
  | .finite negative significand (.ofNat up) =>
    format.signed negative (format.roundRatio (significand * Nat.pow 2 up) 1)
  | .finite negative significand (.negSucc down) =>
    format.signed negative (format.roundRatio significand (Nat.pow 2 (down + 1)))
  | .infinite negative => format.signed negative format.infinityBits
  | .nan => format.infinityBits + 1

end FloatFormat

/-- A number of the sixty-four-bit format, as its bit pattern. -/
structure Double where
  /-- Sign, exponent field and fraction field, from the top. -/
  bits : UInt64
deriving DecidableEq, Repr

namespace Double

/-- What the bits stand for. -/
def value (x : Double) : FloatValue :=
  FloatFormat.double.decode x.bits.toNat

/-- The number nearest to `num / den`, negated if so marked. -/
def ofRatio (negative : Bool) (num den : Nat) : Double :=
  ⟨UInt64.ofNat (FloatFormat.double.signed negative (FloatFormat.double.roundRatio num den))⟩

/-- The number nearest to `significand * 2 ^ exponent`, negated if so marked. -/
def ofScaled (negative : Bool) (significand : Nat) (exponent : Int) : Double :=
  ⟨UInt64.ofNat (FloatFormat.double.encode (.finite negative significand exponent))⟩

/-- A value of any format as a sixty-four-bit number. -/
def ofValue (value : FloatValue) : Double :=
  ⟨UInt64.ofNat (FloatFormat.double.encode value)⟩

/-- The number nearest to a natural number. -/
def ofNat (value : Nat) : Double :=
  ofRatio false value 1

/-- The number nearest to a power of ten. -/
def tenPow (power : Nat) : Double :=
  ofNat (Nat.pow 10 power)

/-- Whether the number is infinite. -/
def isInfinite (x : Double) : Bool :=
  match x.value with
  | .infinite _ => true
  | _ => false

/-- Whether the number is finite. -/
def isFinite (x : Double) : Bool :=
  match x.value with
  | .finite .. => true
  | _ => false

/-- Whether the number is zero of either sign. -/
def isZero (x : Double) : Bool :=
  match x.value with
  | .finite _ significand _ => significand = 0
  | _ => false

/-- The number with the other sign. -/
def negate (x : Double) : Double :=
  ⟨x.bits ^^^ UInt64.ofNat FloatFormat.double.signBit⟩

/-- The rounded product of two finite numbers of positive sign, and otherwise the first. -/
def times (x y : Double) : Double :=
  match x.value, y.value with
  | .finite _ m e, .finite _ n f => ofScaled false (m * n) (e + f)
  | _, _ => x

/-- The rounded quotient of a finite number by one that is not zero, both of positive sign. -/
def quotient (x y : Double) : Double :=
  match x.value, y.value with
  | .finite _ m e, .finite _ n f =>
    match e - f with
    | .ofNat up => ofRatio false (m * Nat.pow 2 up) n
    | .negSucc down => ofRatio false m (n * Nat.pow 2 (down + 1))
  | _, _ => x

end Double

end EngineClient
