import ImageSensor.Configuration
import ImageSensor.Json.Reader

/-!
# Configurations as JSON

A configuration is written as an object with its three fields. It is read from an object, where
absent fields take their defaults and unknown members are ignored, or from an array of the fields
in order, of which a tail may be missing. Every other text is refused.
-/

namespace ImageSensor

/-! ## §1 Fields -/

/-- An address is a literal of digits up to 255. -/
def addressOfJson? : Json → Option UInt8
  | .number literal => do
    let n ← Json.natural? literal
    if n ≤ 255 then some (UInt8.ofNat n) else none
  | _ => none

/-- The orientation named by a string. -/
def orientationOfUnits? (units : List Json.TextUnit) : Option Orientation := do
  let name ← Json.decode? units
  Orientation.ofName? (String.ofList name)

/-- An orientation is its name, alone or as the key of a single null member. -/
def orientationOfJson? : Json → Option Orientation
  | .string units => orientationOfUnits? units
  | .object [(key, .null)] => orientationOfUnits? key
  | _ => none

/-- A flag is a truth value. -/
def flagOfJson? : Json → Option Bool
  | .bool b => some b
  | _ => none

/-! ## §2 Reading -/

/-- The fields found so far. -/
structure ConfigurationFields where
  address : Option UInt8 := none
  orientation : Option Orientation := none
  digitalGain : Option Bool := none
  deriving DecidableEq, Repr

namespace ConfigurationFields

/-- The value of a field found for the first time. -/
def fresh? {α : Type} (known found : Option α) : Option α :=
  match known with
  | none => found
  | some _ => none

/-- Takes a member in. A field may occur once; other members are ignored, but their keys must be
text. -/
def add? (fields : ConfigurationFields) (key : List Json.TextUnit) (v : Json) :
    Option ConfigurationFields := do
  let name ← Json.decode? key
  if name = "address".toList then
    let address ← fresh? fields.address (addressOfJson? v)
    return { fields with address := some address }
  else if name = "orientation".toList then
    let orientation ← fresh? fields.orientation (orientationOfJson? v)
    return { fields with orientation := some orientation }
  else if name = "digital_gain".toList then
    let digitalGain ← fresh? fields.digitalGain (flagOfJson? v)
    return { fields with digitalGain := some digitalGain }
  else
    return fields

/-- Takes members in, one after the other. -/
def addAll? (fields : ConfigurationFields) :
    List (List Json.TextUnit × Json) → Option ConfigurationFields
  | [] => some fields
  | (key, v) :: rest => do
    let fields ← fields.add? key v
    fields.addAll? rest

/-- The configuration with defaults for the fields that were not found. -/
def complete (fields : ConfigurationFields) : Configuration :=
  let default : Configuration := {}
  ⟨fields.address.getD default.address, fields.orientation.getD default.orientation,
    fields.digitalGain.getD default.digitalGain⟩

end ConfigurationFields

namespace Configuration

/-- A configuration from the values of its fields in order; a tail may be missing. -/
def ofItems? : List Json → Option Configuration
  | [] => some {}
  | [a] => do
    let address ← addressOfJson? a
    return { address }
  | [a, o] => do
    let address ← addressOfJson? a
    let orientation ← orientationOfJson? o
    return { address, orientation }
  | [a, o, d] => do
    let address ← addressOfJson? a
    let orientation ← orientationOfJson? o
    let digitalGain ← flagOfJson? d
    return { address, orientation, digitalGain }
  | _ => none

/-- The configuration of a value. -/
def ofJson? : Json → Option Configuration
  | .object members => do
    let fields ← ConfigurationFields.addAll? {} members
    return fields.complete
  | .array items => ofItems? items
  | _ => none

/-- The configuration of a text. -/
def ofText? (text : String) : Option Configuration := do
  let v ← Json.ofText? text.toList
  ofJson? v

/-! ## §3 Writing -/

/-- The compact text of a configuration. -/
def toText (configuration : Configuration) : String :=
  "\x7b\"address\":" ++ configuration.address.toNat.repr ++
    ",\"orientation\":\"" ++ configuration.orientation.name ++
    "\",\"digital_gain\":" ++ (if configuration.digitalGain then "true" else "false") ++ "\x7d"

end Configuration

end ImageSensor
