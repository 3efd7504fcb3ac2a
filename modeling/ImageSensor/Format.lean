import ImageSensor.Catalog
import ImageSensor.Orientation

/-!
# Frame Formats

What a receiver negotiates with the sensor: the frame format, the sizes on offer, and how the
data lanes are driven.
-/

namespace ImageSensor

/-- A progressive frame format. -/
structure Format where
  width : UInt32
  height : UInt32
  code : BusCode
  deriving DecidableEq, Repr

/-- The format of a mode. -/
def Mode.format (mode : Mode) (code : BusCode) : Format :=
  ⟨mode.width, mode.height, code⟩

/-- Which format a negotiation is about. -/
inductive FormatKind where
  /-- The format the sensor streams with. -/
  | active
  /-- A scratch format that never touches the sensor. -/
  | trial
  deriving DecidableEq, Repr

/-- A range of frame sizes. -/
structure SizeRange where
  minWidth : UInt32
  maxWidth : UInt32
  minHeight : UInt32
  maxHeight : UInt32
  deriving DecidableEq, Repr

/-- A mode has one discrete frame size. -/
def Mode.sizeRange (mode : Mode) : SizeRange :=
  ⟨mode.width, mode.width, mode.height, mode.height⟩

/-- How the sensor drives its data lanes. -/
structure LaneConfiguration where
  lanes : Nat
  hsyncActiveHigh : Bool
  vsyncActiveHigh : Bool
  dataActiveHigh : Bool
  deriving DecidableEq, Repr

/-- The lane configuration of the sensor. -/
def laneConfiguration : LaneConfiguration :=
  ⟨lanes, false, true, true⟩

end ImageSensor
