/-!
# JSON Strings

A JSON string is read into units: characters that stand for themselves, and UTF-16 units given by
an escape. A surrogate pair of escapes is one character. A surrogate on its own is well formed as
a unit but stands for no character, so a string with one has no decoded text.

## Main statements

- `decode?_plain`: a string without numeric escapes decodes to its characters.
-/

namespace ImageSensor.Json

/-! ## §1 Units -/

/-- A unit of a string. -/
inductive TextUnit where
  | plain (char : Char)
  | escaped (unit : UInt16)
  deriving DecidableEq, Repr

namespace TextUnit

/-- First half of a surrogate pair. -/
def isHigh (unit : UInt16) : Bool :=
  0xD800 ≤ unit && unit < 0xDC00

/-- Second half of a surrogate pair. -/
def isLow (unit : UInt16) : Bool :=
  0xDC00 ≤ unit && unit < 0xE000

/-- The character of a surrogate pair. -/
def pair (high low : UInt16) : Char :=
  Char.ofNat (0x10000 + (high.toNat - 0xD800) * 0x400 + (low.toNat - 0xDC00))

end TextUnit

open TextUnit

/-- The characters a string stands for. -/
def decode? : List TextUnit → Option (List Char)
  | [] => some []
  | .plain c :: rest => (decode? rest).map (c :: ·)
  | [.escaped unit] =>
    if isHigh unit || isLow unit then none else some [Char.ofNat unit.toNat]
  | .escaped unit :: .plain c :: rest =>
    if isHigh unit || isLow unit then none
    else (decode? rest).map fun text => Char.ofNat unit.toNat :: c :: text
  | .escaped unit :: .escaped next :: rest =>
    if isHigh unit then
      if isLow next then (decode? rest).map (pair unit next :: ·) else none
    else if isLow unit then none
    else (decode? (.escaped next :: rest)).map (Char.ofNat unit.toNat :: ·)

/-- A string without numeric escapes decodes to its characters. -/
theorem decode?_plain (text : List Char) : decode? (text.map .plain) = some text := by
  induction text with
  | nil => rfl
  | cons c rest ih => simp [decode?, ih]

/-! ## §2 Scanning -/

/-- Value of a hexadecimal digit. -/
def hexValue? (c : Char) : Option Nat :=
  if '0' ≤ c ∧ c ≤ '9' then some (c.toNat - '0'.toNat)
  else if 'a' ≤ c ∧ c ≤ 'f' then some (c.toNat - 'a'.toNat + 10)
  else if 'A' ≤ c ∧ c ≤ 'F' then some (c.toNat - 'A'.toNat + 10)
  else none

/-- The unit with four given hexadecimal digits. -/
def unitOfHex? (a b c d : Char) : Option TextUnit := do
  let a ← hexValue? a
  let b ← hexValue? b
  let c ← hexValue? c
  let d ← hexValue? d
  return .escaped (UInt16.ofNat (((a * 16 + b) * 16 + c) * 16 + d))

/-- The character of a one letter escape. -/
def escapedChar? : Char → Option Char
  | '"' => some '"'
  | '\\' => some '\\'
  | '/' => some '/'
  | 'b' => some '\x08'
  | 'f' => some '\x0c'
  | 'n' => some '\n'
  | 'r' => some '\r'
  | 't' => some '\t'
  | _ => none

/-- Control characters have to be escaped. -/
def isControl (c : Char) : Bool :=
  c.toNat < 0x20

/-- Reads a string behind its opening quote, up to and including the closing quote. -/
def scanText? : List Char → Option (List TextUnit × List Char)
  | [] => none
  | '"' :: rest => some ([], rest)
  | '\\' :: 'u' :: a :: b :: c :: d :: rest => do
    let unit ← unitOfHex? a b c d
    let (units, rest) ← scanText? rest
    return (unit :: units, rest)
  | '\\' :: c :: rest => do
    let c ← escapedChar? c
    let (units, rest) ← scanText? rest
    return (.plain c :: units, rest)
  | c :: rest =>
    if isControl c || c == '\\' then none
    else do
      let (units, rest) ← scanText? rest
      return (.plain c :: units, rest)

end ImageSensor.Json
