import ImageSensor.Bus

/-!
# Chip Identity

The sensor is recognised by the identity in its first register; its revision is read only if the
identity is the expected one.
-/

namespace ImageSensor

/-- The identity of the sensor this driver is for. -/
def expectedChipId : UInt16 := 0x30C6

/-- Identity of a sensor. -/
structure ChipIdentity where
  id : UInt16
  revision : UInt8
  deriving DecidableEq, Repr

open ImageSensor.Action

/-- Checks the identity of the chip and reads its revision. -/
def Bus.identify (bus : Bus) : Action (Except IdentityError ChipIdentity) := do
  match ← bus.read Register.chipId 2 with
  | .error e => return .error (.bus e)
  | .ok word =>
    let id := word.toUInt16
    if id = expectedChipId then
      match ← bus.read Register.chipRevision 1 with
      | .error e => return .error (.bus e)
      | .ok revision => return .ok ⟨id, revision.toUInt8⟩
    else
      notify (.unexpectedChip id expectedChipId)
      return .error (.mismatch id)

end ImageSensor
