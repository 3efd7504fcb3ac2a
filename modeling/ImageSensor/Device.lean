import ImageSensor.Bus
import ImageSensor.Configuration
import ImageSensor.Control.Bank
import ImageSensor.Format
import ImageSensor.Power

/-!
# The Sensor Device

A sensor with its power sequencer, its negotiated mode and its controls. Up to two power
references are held at a time, one for streaming and one for an explicit power request; the sensor
is powered with the first reference and turned off with the last.

This module holds the state of the device and what can be read off it without any call.
-/

namespace ImageSensor

/-! ## §1 State -/

/-- Whether the sensor is to send frames. -/
inductive StreamState where
  | stopped
  | streaming
  deriving DecidableEq, Repr

/-- Name of a stream state. -/
def StreamState.name : StreamState → String
  | stopped => "Stopped"
  | streaming => "Streaming"

/-- A sensor device. -/
structure Device where
  configuration : Configuration
  sequencer : Sequencer
  /-- Number of power references held. -/
  users : UInt32
  /-- Whether power was requested explicitly. -/
  powerRequested : Bool
  stream : StreamState
  /-- Whether the sensor is off for the sleep of the system. -/
  suspended : Bool
  /-- The mode streamed with. -/
  mode : Mode
  /-- The scratch format of negotiations. -/
  trialFormat : Format
  controls : ControlBank
  deriving DecidableEq, Repr

namespace Device

open ImageSensor.Action

/-- A device for a sensor that is off, in the default mode. Nothing is sent to the sensor. -/
def create (configuration : Configuration) (wiring : Wiring) : Action Device := do
  let sequencer ← Sequencer.create wiring
  let controls ← ofChecked (ControlBank.ofMode Catalog.defaultMode configuration.digitalGain)
  return {
    configuration
    sequencer
    users := 0
    powerRequested := false
    stream := .stopped
    suspended := false
    mode := Catalog.defaultMode
    trialFormat := Catalog.defaultMode.format configuration.orientation.busCode
    controls }

/-! ## §2 Queries -/

/-- The bus at the configured address. -/
def bus (device : Device) : Bus :=
  ⟨device.configuration.address⟩

/-- The bus code of the configured orientation, the only one on offer. -/
def busCode (device : Device) : BusCode :=
  device.configuration.orientation.busCode

/-- Register writes reach the sensor only while it is referenced and powered. -/
def isLive (device : Device) : Bool :=
  0 < device.users && device.sequencer.power = .on

/-- The active or the scratch format. -/
def format (device : Device) : FormatKind → Format
  | .active => device.mode.format device.busCode
  | .trial => device.trialFormat

/-- Frame interval of the active mode. -/
def frameInterval (device : Device) : FrameInterval :=
  device.mode.interval

/-- Active area of the active mode. -/
def cropBounds (device : Device) : Checked Rectangle :=
  device.mode.cropBounds

/-- Bus codes by position; there is one. -/
def busCodeAt? (device : Device) (index : Nat) : Option BusCode :=
  [device.busCode][index]?

/-- Modes by position, for the bus code on offer. -/
def modeAt? (device : Device) (index : Nat) (code : BusCode) : Option Mode :=
  if code = device.busCode then Catalog.modes[index]? else none

/-- Frame sizes by position. -/
def sizeAt? (device : Device) (index : Nat) (code : BusCode) : Option SizeRange :=
  (device.modeAt? index code).map Mode.sizeRange

/-- Frame intervals by position. -/
def intervalAt? (device : Device) (index : Nat) (code : BusCode) : Option ModeSummary :=
  (device.modeAt? index code).map Mode.summary

end Device

end ImageSensor
