import ImageSensor.Control
import ImageSensor.Text.Hex

/-!
# Errors

What can go wrong, as causes. Every error has two texts: `message` is a sentence for a user,
`inspect` names the error with its parts, as log records show it.
-/

namespace ImageSensor

/-- The reason a part of the platform gives for a failed call. -/
structure Cause where
  reason : String
  deriving DecidableEq, Repr

/-- A name with the text of its parts in parentheses. -/
def wrapped (name part : String) : String :=
  name ++ "(" ++ part ++ ")"

/-! ## §1 Bus -/

/-- A register access failed. -/
inductive BusError where
  /-- The transaction failed. -/
  | transport (cause : Cause)
  /-- Registers hold one to four bytes. -/
  | invalidWidth (width : UInt8)
  deriving DecidableEq, Repr

namespace BusError

/-- Text for a user. -/
def message : BusError → String
  | transport cause => "i2c transaction failed: " ++ cause.reason
  | invalidWidth width => "invalid register width of " ++ width.toNat.repr ++ " bytes"

/-- Name and parts. -/
def inspect : BusError → String
  | transport cause => wrapped "Transport" cause.reason
  | invalidWidth width => wrapped "InvalidWidth" width.toNat.repr

end BusError

/-! ## §2 Identification -/

/-- The chip could not be identified. -/
inductive IdentityError where
  /-- Another chip answers. -/
  | mismatch (id : UInt16)
  /-- The identity could not be read. -/
  | bus (error : BusError)
  deriving DecidableEq, Repr

namespace IdentityError

/-- Text for a user. -/
def message : IdentityError → String
  | mismatch id => "unexpected chip id 0x" ++ Hex.padded 4 id.toNat
  | bus error => "could not read chip id: " ++ error.message

/-- Name and parts. -/
def inspect : IdentityError → String
  | mismatch id => wrapped "Mismatch" id.toNat.repr
  | bus error => wrapped "Bus" error.inspect

end IdentityError

/-! ## §3 Controls -/

/-- A control was not set. -/
inductive ControlError where
  /-- There is no control with this numeric identifier. -/
  | unsupported (cid : UInt32)
  /-- The control follows from the mode. -/
  | readOnly (id : ControlId)
  /-- There is no such menu position. -/
  | outOfRange (id : ControlId) (v : Int)
  /-- The register write failed; the control keeps its new value. -/
  | bus (error : BusError)
  deriving DecidableEq, Repr

namespace ControlError

/-- Text for a user. -/
def message : ControlError → String
  | unsupported cid => "unsupported control 0x" ++ Hex.padded 8 cid.toNat
  | readOnly id => "control " ++ id.name ++ " is read-only"
  | outOfRange id v => "value " ++ toString v ++ " out of range for " ++ id.name
  | bus error => "control write failed: " ++ error.message

/-- Name and parts. -/
def inspect : ControlError → String
  | unsupported cid => wrapped "Unsupported" cid.toNat.repr
  | readOnly id => wrapped "ReadOnly" id.name
  | outOfRange id v => wrapped "OutOfRange" (id.name ++ ", " ++ toString v)
  | bus error => wrapped "Bus" error.inspect

end ControlError

/-! ## §4 Power -/

/-- The sensor could not be powered. -/
inductive PowerError where
  /-- The reference clock could not be enabled. -/
  | clock (cause : Cause)
  /-- The supplies could not be enabled. -/
  | regulators (cause : Cause)
  deriving DecidableEq, Repr

namespace PowerError

/-- Text for a user. -/
def message : PowerError → String
  | clock cause => "failed to enable reference clock: " ++ cause.reason
  | regulators cause => "failed to enable regulators: " ++ cause.reason

/-- Name and parts. -/
def inspect : PowerError → String
  | clock cause => wrapped "Clock" cause.reason
  | regulators cause => wrapped "Regulators" cause.reason

end PowerError

/-! ## §5 Device -/

/-- An operation of the device failed. -/
inductive DeviceError where
  | bus (error : BusError)
  | identity (error : IdentityError)
  | control (error : ControlError)
  | power (error : PowerError)
  /-- The power manager did not grant a reference. -/
  | acquire (cause : Cause)
  /-- The operation needs the bus, but the sensor is suspended. -/
  | suspended
  deriving DecidableEq, Repr

namespace DeviceError

/-- Text for a user. -/
def message : DeviceError → String
  | bus error => "register access failed: " ++ error.message
  | identity error => "identification failed: " ++ error.message
  | control error => "control rejected: " ++ error.message
  | power error => "power sequencing failed: " ++ error.message
  | acquire cause => "power reference not granted: " ++ cause.reason
  | suspended => "sensor is suspended"

/-- Name and parts. -/
def inspect : DeviceError → String
  | bus error => wrapped "Bus" error.inspect
  | identity error => wrapped "Identity" error.inspect
  | control error => wrapped "Control" error.inspect
  | power error => wrapped "Power" error.inspect
  | acquire cause => wrapped "Acquire" cause.reason
  | suspended => "Suspended"

end DeviceError

end ImageSensor
