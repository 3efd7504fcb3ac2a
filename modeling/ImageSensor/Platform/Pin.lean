/-!
# Control Pins

The pins through which a board holds the sensor in power-off, reset or power-down, each of which
may or may not be wired, and the two profiles of the interface pins.
-/

namespace ImageSensor

/-- A pin that controls the sensor. -/
inductive ControlPin where
  /-- Power enable, active high. -/
  | powerEnable
  /-- Reset, active low. -/
  | reset
  /-- Power down, active low. -/
  | powerDown
  deriving DecidableEq, Repr

namespace ControlPin

/-- All control pins. -/
def all : List ControlPin := [powerEnable, reset, powerDown]

/-- What a log record calls a pin that is driven. -/
def label : ControlPin → String
  | powerEnable => "power"
  | reset => "reset"
  | powerDown => "power down"

/-- What a log record calls a pin that is missing. -/
def title : ControlPin → String
  | powerEnable => "power enable"
  | reset => "reset"
  | powerDown => "power down"

end ControlPin

/-- Which control pins are wired. -/
structure Wiring where
  powerEnable : Bool
  reset : Bool
  powerDown : Bool
  deriving DecidableEq, Repr

namespace Wiring

/-- Whether a pin is wired. -/
def has (wiring : Wiring) : ControlPin → Bool
  | .powerEnable => wiring.powerEnable
  | .reset => wiring.reset
  | .powerDown => wiring.powerDown

/-- The wired pins. -/
def pins (wiring : Wiring) : List ControlPin :=
  ControlPin.all.filter wiring.has

/-- The wiring of a list of pins. -/
def ofPins (pins : List ControlPin) : Wiring :=
  ⟨pins.contains .powerEnable, pins.contains .reset, pins.contains .powerDown⟩

end Wiring

/-- Use of the interface pins. -/
inductive PinProfile where
  /-- Driven for operation. -/
  | active
  /-- Parked while the sensor is off. -/
  | sleep
  deriving DecidableEq, Repr

end ImageSensor
