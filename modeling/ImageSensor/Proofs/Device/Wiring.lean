import ImageSensor.Proofs.Device.Operations

/-!
# A Device Keeps Its Pins

The pins that a device was created with stay its pins. Powering up and down changes the power state
of the sequencer alone, and nothing else touches the sequencer.

## Main statements

- `Performed.wiring_eq`: every operation keeps the wiring, whatever the platform answers.
-/

namespace ImageSensor

namespace Sequencer

variable {sequencer sequencer' : Sequencer} {events : List Event}

theorem PoweredUp.wiring_eq {outcome : Except PowerError Unit}
    (up : sequencer.PoweredUp events outcome sequencer') :
    sequencer'.wiring = sequencer.wiring := by
  cases up <;> rfl

theorem PoweredDown.wiring_eq (down : sequencer.PoweredDown events sequencer') :
    sequencer'.wiring = sequencer.wiring := by
  cases down <;> rfl

end Sequencer

namespace Device

/-- The pins a device is wired to. -/
def wiring (device : Device) : Wiring :=
  device.sequencer.wiring

variable {device device' : Device} {events : List Event} {outcome : Except DeviceError Unit}

/-! ## §1 References -/

theorem Acquired.wiring_eq (acquired : device.Acquired events outcome device') :
    device'.wiring = device.wiring := by
  cases acquired with
  | refused | unpowered | deferred => rfl
  | powered awake up counted => exact up.wiring_eq

theorem Released.wiring_eq (released : device.Released events device') :
    device'.wiring = device.wiring := by
  cases released with
  | none | kept => rfl
  | last one down => exact down.wiring_eq

theorem PowerSet.wiring_eq {on : Bool} (set : device.PowerSet on events outcome device') :
    device'.wiring = device.wiring := by
  cases set with
  | unchanged => rfl
  | refused fresh acquired | requested fresh acquired => exact acquired.wiring_eq
  | withdrawn requested released => exact released.wiring_eq

theorem Probed.wiring_eq {outcome : Except DeviceError ChipIdentity}
    (probed : device.Probed events outcome device') : device'.wiring = device.wiring := by
  cases probed with
  | asleep => rfl
  | unpowered awake acquired => exact acquired.wiring_eq
  | rejected awake acquired identified released | detected awake acquired identified released =>
    exact released.wiring_eq.trans acquired.wiring_eq

/-! ## §2 The stream -/

theorem StreamedOn.wiring_eq (on : device.StreamedOn events outcome device') :
    device'.wiring = device.wiring := by
  cases on with
  | unpowered => rfl
  | programmed up programmed => exact up.wiring_eq

theorem Stopped.wiring_eq (stopped : device.Stopped events device') :
    device'.wiring = device.wiring := by
  cases stopped with
  | idle => rfl
  | stopped streaming halted released => exact released.wiring_eq

theorem Started.wiring_eq (started : device.Started events outcome device') :
    device'.wiring = device.wiring := by
  cases started with
  | already => rfl
  | refused stopped acquired | deferred stopped acquired asleep => exact acquired.wiring_eq
  | failed stopped acquired awake on released =>
    exact released.wiring_eq.trans (on.wiring_eq.trans acquired.wiring_eq)
  | started stopped acquired awake on => exact on.wiring_eq.trans acquired.wiring_eq

theorem Suspended.wiring_eq (suspended : device.Suspended events device') :
    device'.wiring = device.wiring := by
  cases suspended with
  | already => rfl
  | suspended awake halted down => exact down.wiring_eq

theorem Restored.wiring_eq (restored : device.Restored events outcome device') :
    device'.wiring = device.wiring := by
  cases restored with
  | streaming streaming on => exact on.wiring_eq
  | powered stopped used up => exact up.wiring_eq
  | idle => rfl

theorem Resumed.wiring_eq (resumed : device.Resumed events outcome device') :
    device'.wiring = device.wiring := by
  cases resumed with
  | already => rfl
  | resumed asleep restored => exact restored.wiring_eq
  | failed asleep restored stopped => exact stopped.wiring_eq.trans restored.wiring_eq

/-! ## §3 All operations -/

theorem Tuned.wiring_eq (tuned : device.Tuned events device') : device'.wiring = device.wiring :=
  congrArg Sequencer.wiring tuned.sequencer

/-- Every operation keeps the wiring, whatever the platform answers. -/
theorem Performed.wiring_eq {operation : Operation} {reply : Reply}
    (performed : device.Performed operation events reply device') :
    device'.wiring = device.wiring :=
  performed.elim Probed.wiring_eq Started.wiring_eq Stopped.wiring_eq PowerSet.wiring_eq
    Suspended.wiring_eq Resumed.wiring_eq Tuned.wiring_eq

end Device

end ImageSensor
