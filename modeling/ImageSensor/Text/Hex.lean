/-!
# Hexadecimal Text

Numbers in base sixteen, in lower-case digits, with or without leading zeros.
-/

namespace ImageSensor.Hex

/-- The digits of `n`, without leading zeros. -/
def digits (n : Nat) : List Char :=
  Nat.toDigits 16 n

/-- Digits filled up with zeros in front to at least `width` characters. -/
def fill (width : Nat) (text : List Char) : List Char :=
  List.replicate (width - text.length) '0' ++ text

/-- Text of `n`, without leading zeros. -/
def plain (n : Nat) : String :=
  String.ofList (digits n)

/-- Text of `n` in at least `width` digits. -/
def padded (width n : Nat) : String :=
  String.ofList (fill width (digits n))

end ImageSensor.Hex
