import EngineClient.Decimal.Shortest

/-! How a decimal number is laid out as text. -/

namespace EngineClient

/-- The choices that a text form of floating-point numbers makes. -/
structure NumberLayout where
  /-- The point stands at most this many places before the first digit. -/
  leadingZeros : Nat
  /-- The point stands at most this many places behind the first digit, or anywhere. -/
  wholePlaces : Option Nat
  /-- Whether whole numbers end in a point and a zero. -/
  markWhole : Bool
  /-- What stands before an exponent that is not negative. -/
  plus : String
deriving Repr

namespace NumberLayout

/-- JSON texts: positional from `1e-5` up to below `1e16`, and the exponent always has a sign. -/
def json : NumberLayout := ⟨4, some 16, true, "+"⟩

/-- Displayed doubles: as in JSON texts, but the exponent has no plus sign. -/
def double : NumberLayout := ⟨4, some 16, true, ""⟩

/-- Displayed singles: positional from `1e-6` up to below `1e13`. -/
def single : NumberLayout := ⟨5, some 13, true, ""⟩

/-- Displayed halves: always positional, and whole numbers have no point. -/
def half : NumberLayout := ⟨0, none, false, ""⟩

/-- A run of zeros. -/
def zeros (count : Nat) : String :=
  String.ofList (List.replicate count '0')

/-- Lays out a decimal number that is not negative. -/
def layOut (layout : NumberLayout) (number : Shortest.Decimal) : String :=
  let digits := Nat.toDigits 10 number.digits
  -- The point stands `point` places behind the first digit's left edge.
  let point : Int := digits.length + number.exponent
  let positional := match layout.wholePlaces with
    | none => true
    | some places => -(layout.leadingZeros : Int) ≤ point ∧ point ≤ places
  if number.digits = 0 then if layout.markWhole then "0.0" else "0"
  else if positional then
    if 0 ≤ number.exponent then
      String.ofList digits ++ zeros number.exponent.toNat
        ++ (if layout.markWhole then ".0" else "")
    else if 0 < point then
      String.ofList (digits.take point.toNat) ++ "." ++ String.ofList (digits.drop point.toNat)
    else "0." ++ zeros (-point).toNat ++ String.ofList digits
  else
    let mantissa := match digits with
      | [] => ""
      | [digit] => String.ofList [digit]
      | digit :: rest => String.ofList (digit :: '.' :: rest)
    let sign := if 1 ≤ point then layout.plus else "-"
    mantissa ++ "e" ++ sign ++ toString (point - 1).natAbs

/-- The text of a bit pattern of some format. -/
def render (layout : NumberLayout) (format : FloatFormat) (bits : Nat) : String :=
  match format.decode bits with
  | .finite negative significand exponent =>
    (if negative then "-" else "")
      ++ layout.layOut (Shortest.shortest format significand exponent)
  | .infinite negative => if negative then "-inf" else "inf"
  | .nan => "NaN"

/-- The text of a half, whose digits are those of the equal single. -/
def renderHalf (bits : Nat) : String :=
  half.render .single (FloatFormat.single.encode (FloatFormat.half.decode bits))

end NumberLayout

end EngineClient
