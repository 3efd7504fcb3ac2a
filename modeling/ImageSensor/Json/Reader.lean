import ImageSensor.Json.Number
import ImageSensor.Json.Text

/-!
# JSON Values

The value tree of a JSON text and its reader. Blanks may stand around every token; nothing may
follow the value. Members of an object keep their order and may repeat a key, and strings are kept
in units, so that their reading is left to whoever needs the text.
-/

namespace ImageSensor

/-! ## §1 Values -/

/-- A JSON value. -/
inductive Json where
  | null
  | bool (b : Bool)
  /-- A number as it is written. -/
  | number (literal : List Char)
  | string (units : List Json.TextUnit)
  | array (items : List Json)
  | object (members : List (List Json.TextUnit × Json))
  deriving Repr

namespace Json

/-! ## §2 Blanks and words -/

/-- The characters that may stand between tokens. -/
def isBlank (c : Char) : Bool :=
  c == ' ' || c == '\n' || c == '\t' || c == '\r'

/-- A text without the blanks in front. -/
def skipBlanks (text : List Char) : List Char :=
  text.dropWhile isBlank

/-- What follows a word at the front of a text. -/
def expect? : List Char → List Char → Option (List Char)
  | [], text => some text
  | _ :: _, [] => none
  | w :: word, c :: text => if w = c then expect? word text else none

/-! ## §3 Values -/

mutual

/-- Reads a value from the front of a text. -/
def value? : Nat → List Char → Option (Json × List Char)
  | 0, _ => none
  | fuel + 1, text =>
    match skipBlanks text with
    | 'n' :: rest => (expect? "ull".toList rest).map fun rest => (.null, rest)
    | 't' :: rest => (expect? "rue".toList rest).map fun rest => (.bool true, rest)
    | 'f' :: rest => (expect? "alse".toList rest).map fun rest => (.bool false, rest)
    | '"' :: rest => (scanText? rest).map fun read => (.string read.1, read.2)
    | '[' :: rest =>
      match skipBlanks rest with
      | ']' :: rest => some (.array [], rest)
      | rest => (items? fuel rest).map fun read => (.array read.1, read.2)
    | '\x7b' :: rest =>
      match skipBlanks rest with
      | '\x7d' :: rest => some (.object [], rest)
      | rest => (members? fuel rest).map fun read => (.object read.1, read.2)
    | rest => (scanNumber? rest).map fun read => (.number read.1, read.2)

/-- Reads the items of an array that is not empty, up to and including the closing bracket. -/
def items? : Nat → List Char → Option (List Json × List Char)
  | 0, _ => none
  | fuel + 1, text => do
    let (item, rest) ← value? fuel text
    match skipBlanks rest with
    | ']' :: rest => return ([item], rest)
    | ',' :: rest =>
      let (items, rest) ← items? fuel rest
      return (item :: items, rest)
    | _ => none

/-- Reads the members of an object that is not empty, up to and including the closing brace. -/
def members? : Nat → List Char → Option (List (List TextUnit × Json) × List Char)
  | 0, _ => none
  | fuel + 1, text => do
    let rest ← expect? ['"'] (skipBlanks text)
    let (key, rest) ← scanText? rest
    let rest ← expect? [':'] (skipBlanks rest)
    let (v, rest) ← value? fuel rest
    match skipBlanks rest with
    | '\x7d' :: rest => return ([(key, v)], rest)
    | ',' :: rest =>
      let (members, rest) ← members? fuel rest
      return ((key, v) :: members, rest)
    | _ => none

end

/-- Reads a whole text as one value. Two steps per character are enough for any nesting. -/
def ofText? (text : List Char) : Option Json := do
  let (v, rest) ← value? (2 * text.length + 1) text
  if (skipBlanks rest).isEmpty then some v else none

end Json

end ImageSensor
