/-!
# JSON Numbers

A number is an optional minus sign, an integer without leading zeros, and optionally a fraction
and an exponent. It is kept as it is written; only a literal of digits alone is a natural number.

## Main statements

- `natural?_eq_some_iff`: which literals are natural numbers, and which.
- `natural?_toDigits`: the decimal digits of a natural number are read as that number.
-/

namespace ImageSensor.Json

/-! ## §1 Scanning -/

/-- A non-empty run of digits, and what follows it. -/
def scanDigits? (text : List Char) : Option (List Char × List Char) :=
  match text.takeWhile Char.isDigit with
  | [] => none
  | digits => some (digits, text.dropWhile Char.isDigit)

/-- The integer part: a single zero, or digits that start with another one. -/
def scanInteger? (text : List Char) : Option (List Char × List Char) := do
  let (digits, rest) ← scanDigits? text
  if digits.head? = some '0' ∧ digits ≠ ['0'] then none
  return (digits, rest)

/-- The fraction, if there is a point. -/
def scanFraction? : List Char → Option (List Char × List Char)
  | '.' :: rest => do
    let (digits, rest) ← scanDigits? rest
    return ('.' :: digits, rest)
  | rest => some ([], rest)

/-- The sign of an exponent, if there is one. -/
def scanSign : List Char → List Char × List Char
  | '+' :: rest => (['+'], rest)
  | '-' :: rest => (['-'], rest)
  | rest => ([], rest)

/-- The exponent, if there is a mark. -/
def scanExponent? : List Char → Option (List Char × List Char)
  | [] => some ([], [])
  | mark :: rest =>
    if mark = 'e' ∨ mark = 'E' then do
      let (sign, rest) := scanSign rest
      let (digits, rest) ← scanDigits? rest
      return (mark :: (sign ++ digits), rest)
    else
      some ([], mark :: rest)

/-- The minus sign, if there is one. -/
def scanMinus : List Char → List Char × List Char
  | '-' :: rest => (['-'], rest)
  | rest => ([], rest)

/-- Reads a number from the front of a text. -/
def scanNumber? (text : List Char) : Option (List Char × List Char) := do
  let (minus, rest) := scanMinus text
  let (integer, rest) ← scanInteger? rest
  let (fraction, rest) ← scanFraction? rest
  let (exponent, rest) ← scanExponent? rest
  return (minus ++ integer ++ fraction ++ exponent, rest)

/-! ## §2 Natural numbers -/

/-- The natural number of a literal that has digits only. -/
def natural? (literal : List Char) : Option Nat :=
  if literal.all Char.isDigit then some (Nat.ofDigitChars 10 literal 0) else none

/-- A literal is a natural number if it has digits only, and then the one that they make up. -/
theorem natural?_eq_some_iff {literal : List Char} {n : Nat} :
    natural? literal = some n ↔
      (∀ c ∈ literal, c.isDigit = true) ∧ Nat.ofDigitChars 10 literal 0 = n := by
  simp [natural?]

/-- The decimal digits of a number are read as that number. -/
theorem natural?_toDigits (n : Nat) : natural? (Nat.toDigits 10 n) = some n := by
  rw [natural?_eq_some_iff]
  refine ⟨fun _ member => ?_, Nat.ofDigitChars_ten_toDigits⟩
  exact Nat.isDigit_of_mem_toDigits (by decide) (by decide) member

end ImageSensor.Json
