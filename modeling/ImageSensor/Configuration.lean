import ImageSensor.Orientation

/-!
# Configuration

What is chosen once, when a sensor is set up.
-/

namespace ImageSensor

/-- Address at which the sensor answers unless strapped otherwise, seven bits. -/
def defaultAddress : UInt8 := 0x2D

/-- Set-up of a sensor. -/
structure Configuration where
  /-- Bus address of the sensor. -/
  address : UInt8 := defaultAddress
  /-- Mounting of the sensor. -/
  orientation : Orientation := .normal
  /-- Whether the digital gain control is offered. -/
  digitalGain : Bool := false
  deriving DecidableEq, Repr

end ImageSensor
