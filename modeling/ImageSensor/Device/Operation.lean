import ImageSensor.Bus.Identity
import ImageSensor.Device.Adjustment
import ImageSensor.Device.Stream

/-!
# Operations of a Device

Everything a user can ask of a device, as data, with the reply to each. `perform` carries out one
operation, `performAll` several in a row; `detach` takes the device apart.
-/

namespace ImageSensor

/-- An operation that acts on the sensor or changes the device. -/
inductive Operation where
  | probe
  | start
  | stop
  | setStream (on : Bool)
  | setPower (on : Bool)
  | suspend
  | resume
  | setFormat (width height : UInt32) (kind : FormatKind)
  | setControl (id : ControlId) (v : Int)
  | setControlRaw (cid : UInt32) (v : Int)
  | setControls (values : List (ControlId × Int))
  deriving DecidableEq, Repr

/-- The reply to an operation. -/
inductive Reply where
  | completed (outcome : Except DeviceError Unit)
  | identified (outcome : Except DeviceError ChipIdentity)
  | negotiated (format : Format)
  | adjusted (outcome : Except ControlError Unit)
  deriving Repr

namespace Device

open ImageSensor.Action

/-! ## §1 Probing -/

/-- Reports a sensor that was found. -/
def announceChip : Except IdentityError ChipIdentity → Action (Except DeviceError ChipIdentity)
  | .error e => return .error (.identity e)
  | .ok chip => do
    notify (.detected chip.id chip.revision)
    return .ok chip

/-- Checks that the sensor is present, powering it just for the check. Fails while suspended. -/
def probe (device : Device) : Action (Except DeviceError ChipIdentity × Device) :=
  if device.suspended then
    return (.error .suspended, device)
  else do
    let (outcome, device) ← device.acquirePower
    match outcome with
    | .error e => return (.error e, device)
    | .ok () =>
      let identity ← device.bus.identify
      let device ← device.releasePower
      let outcome ← announceChip identity
      return (outcome, device)

/-! ## §2 Detaching -/

/-- Drops `count` power references. -/
def dropReferences : Nat → Device → Action Device
  | 0, device => return device
  | count + 1, device => do
    let device ← device.releasePower
    dropReferences count device

/-- Stops the stream, drops every power reference, turns the sensor off and gives the wired pins
back. -/
def detach (device : Device) : Action Wiring := do
  let device ← device.stop
  let device ← dropReferences device.users.toNat device
  let device ← { device with powerRequested := false }.powerDown
  return device.sequencer.wiring

/-! ## §3 Performing operations -/

/-- Carries out an operation. -/
def perform (device : Device) : Operation → Action (Reply × Device)
  | .probe => do
    let (outcome, device) ← device.probe
    return (.identified outcome, device)
  | .start => do
    let (outcome, device) ← device.start
    return (.completed outcome, device)
  | .stop => do
    let device ← device.stop
    return (.completed (.ok ()), device)
  | .setStream on => do
    let (outcome, device) ← device.setStream on
    return (.completed outcome, device)
  | .setPower on => do
    let (outcome, device) ← device.setPower on
    return (.completed outcome, device)
  | .suspend => do
    let device ← device.suspend
    return (.completed (.ok ()), device)
  | .resume => do
    let (outcome, device) ← device.resume
    return (.completed outcome, device)
  | .setFormat width height kind => do
    let (format, device) ← device.setFormat width height kind
    return (.negotiated format, device)
  | .setControl id v => do
    let (outcome, device) ← device.setControl id v
    return (.adjusted outcome, device)
  | .setControlRaw cid v => do
    let (outcome, device) ← device.setControlRaw cid v
    return (.adjusted outcome, device)
  | .setControls values => do
    let (outcome, device) ← device.setControls values
    return (.adjusted outcome, device)

/-- Carries out operations one after the other. -/
def performAll (device : Device) : List Operation → Action (List Reply × Device)
  | [] => return ([], device)
  | operation :: rest => do
    let (reply, device) ← device.perform operation
    let (replies, device) ← device.performAll rest
    return (reply :: replies, device)

end Device

end ImageSensor
