/-!
# Registers

The sensor is controlled through registers with 16-bit addresses that hold values of one to four
bytes. This module names the registers in use and the write of a value to a register.
-/

namespace ImageSensor

/-- Address of a sensor register. -/
abbrev RegisterAddress := UInt16

namespace Register

/-! ## §1 Addresses -/

/-- Identity of the chip, two bytes. -/
def chipId : RegisterAddress := 0x0000

/-- Silicon revision, one byte. -/
def chipRevision : RegisterAddress := 0x0002

/-- Standby or streaming, one byte; a two byte write carries the orientation in its low byte. -/
def modeSelect : RegisterAddress := 0x0100

/-- Wraps the switch to streaming. -/
def streamOn : RegisterAddress := 0x3C1E

/-- Integration time in lines. -/
def exposure : RegisterAddress := 0x0202

/-- Analog gain. -/
def analogGain : RegisterAddress := 0x0204

/-- Digital gain. -/
def digitalGain : RegisterAddress := 0x020E

/-- Vertical total in lines. -/
def frameLengthLines : RegisterAddress := 0x0340

/-- Test pattern generator. -/
def testPattern : RegisterAddress := 0x0601

/-- Mode select value of software standby. -/
def standby : UInt32 := 0x00

/-- Mode select value of streaming. -/
def streaming : UInt32 := 0x01

end Register

/-! ## §2 Writes -/

/-- A value for a register. Only the low `width` bytes of the value are sent. -/
structure RegisterWrite where
  address : RegisterAddress
  width : UInt8
  value : UInt32
  deriving DecidableEq, Repr

/-- Registers hold one to four bytes. -/
def validWidth (width : UInt8) : Bool :=
  1 ≤ width && width ≤ 4

theorem validWidth_iff {width : UInt8} :
    validWidth width = true ↔ 1 ≤ width.toNat ∧ width.toNat ≤ 4 := by
  rw [validWidth, Bool.and_eq_true, decide_eq_true_eq, decide_eq_true_eq, UInt8.le_iff_toNat_le,
    UInt8.le_iff_toNat_le]
  rfl

end ImageSensor
