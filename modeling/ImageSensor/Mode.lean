import ImageSensor.Checked
import ImageSensor.Register.Table

/-!
# Sensor Modes

A mode is a frame size with its timing and the register table that sets the sensor up for it.
Blanking, rates and the active area follow from these numbers; each derived quantity is checked
on its own, because a mode may be given with numbers for which some of them do not exist.
-/

namespace ImageSensor

/-! ## §1 Link and frame limits -/

/-- Number of data lanes. -/
def lanes : Nat := 4

/-- Link frequencies in Hz, selected by index. -/
def linkFrequencies : List Nat := [600000000, 284000000]

/-- Pixel rate of the fastest link, with ten bits per pixel on both clock edges of all lanes. -/
def pixelRateMax : Nat := 600000000 * 2 * lanes / 10

/-- Largest vertical total, in lines. -/
def verticalTotalMax : UInt32 := 0xfff7

/-! ## §2 Frame intervals and rectangles -/

/-- Time per frame in seconds, as a fraction. -/
structure FrameInterval where
  numerator : UInt32
  denominator : UInt32
  deriving DecidableEq, Repr

/-- Frames per second, rounded to the closest integer, halves upwards. -/
def FrameInterval.framesPerSecond (interval : FrameInterval) : Checked UInt32 := do
  let sum ← Checked.add interval.denominator (interval.numerator / 2)
  Checked.div sum interval.numerator

/-- An area of the pixel array. -/
structure Rectangle where
  left : UInt32
  top : UInt32
  width : UInt32
  height : UInt32
  deriving DecidableEq, Repr

/-- Start of a centred span of `active` out of `total` pixels, aligned down to four pixels. -/
def centredStart (total active : UInt32) : Checked UInt32 := do
  let margin ← Checked.sub total active
  return margin / 2 / 4 * 4

/-! ## §3 Modes -/

/-- A mode of the sensor. Totals and exposure are in pixels and lines. -/
structure Mode where
  width : UInt32
  height : UInt32
  /-- Frame interval at the default vertical blank. -/
  interval : FrameInterval
  horizontalTotal : UInt32
  verticalTotal : UInt32
  /-- Default exposure. -/
  exposure : UInt32
  linkFrequencyIndex : Nat
  bitsPerPixel : UInt32
  cropWidth : UInt32
  cropHeight : UInt32
  table : RegisterTable
  deriving DecidableEq, Repr

/-- What a receiver is told about a mode. -/
structure ModeSummary where
  width : UInt32
  height : UInt32
  interval : FrameInterval
  deriving DecidableEq, Repr

namespace Mode

/-- Horizontal blank, fixed per mode. -/
def horizontalBlank (mode : Mode) : Checked UInt32 :=
  Checked.sub mode.horizontalTotal mode.width

/-- Vertical blank at the default vertical total. -/
def verticalBlank (mode : Mode) : Checked UInt32 :=
  Checked.sub mode.verticalTotal mode.height

/-- Largest vertical blank. -/
def verticalBlankMax (mode : Mode) : Checked UInt32 :=
  Checked.sub verticalTotalMax mode.height

/-- Link frequency in Hz. -/
def linkFrequency (mode : Mode) : Checked Nat :=
  match linkFrequencies[mode.linkFrequencyIndex]? with
  | some hz => .ok hz
  | none => .error .indexOutOfRange

/-- Pixels per second on the link. -/
def pixelRate (mode : Mode) : Checked Nat := do
  let hz ← mode.linkFrequency
  if mode.bitsPerPixel = 0 then
    throw .divisionByZero
  return hz / mode.bitsPerPixel.toNat * 2 * lanes

/-- The active area, centred and aligned to four pixels. -/
def cropBounds (mode : Mode) : Checked Rectangle := do
  let left ← centredStart mode.width mode.cropWidth
  let top ← centredStart mode.height mode.cropHeight
  return ⟨left, top, mode.cropWidth, mode.cropHeight⟩

/-- Summary of a mode. -/
def summary (mode : Mode) : ModeSummary :=
  ⟨mode.width, mode.height, mode.interval⟩

end Mode

end ImageSensor
