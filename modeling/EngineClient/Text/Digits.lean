/-! Numbers written to a fixed width. -/

namespace EngineClient.Text

/-- A natural number in decimal, with zeros in front up to a number of digits. -/
def padded (width : Nat) (value : Nat) : String :=
  let digits := Nat.toDigits 10 value
  String.ofList (List.replicate (width - digits.length) '0' ++ digits)

/-- The digits of a fraction of a given number of places, without the zeros at its end. -/
def fractionDigits (places : Nat) (value : Nat) : String :=
  String.ofList ((padded places value).toList.reverse.dropWhile (· = '0')).reverse

end EngineClient.Text
