import ImageSensor.Device

/-!
# Power References

A reference is granted by the power manager and counts as held once the sensor has power. While
the sensor is suspended only the reference is taken; it is powered on resume.
-/

namespace ImageSensor.Device

open ImageSensor.Action

/-- Powers the sensor up, unless it is suspended. -/
def powerUp (device : Device) : Action (Except DeviceError Unit × Device) :=
  if device.suspended then
    return (.ok (), device)
  else do
    let (outcome, sequencer) ← device.sequencer.powerOn
    return (outcome.mapError .power, { device with sequencer })

/-- Powers the sensor down. -/
def powerDown (device : Device) : Action Device := do
  let sequencer ← device.sequencer.powerOff
  return { device with sequencer }

/-- Gives a reference back to the power manager. -/
def returnReference : Action Unit :=
  ask .release

/-- Takes a power reference, powering the sensor with the first one. A sensor that cannot be
powered gives the reference back. -/
def acquirePower (device : Device) : Action (Except DeviceError Unit × Device) := do
  let granted : Except Cause Unit ← ask .acquire
  match granted with
  | .error cause => return (.error (.acquire cause), device)
  | .ok () =>
    let (outcome, device) ← device.powerUp
    match outcome with
    | .error e =>
      -- granted, but never counted: the reference goes straight back
      returnReference
      return (.error e, device)
    | .ok () =>
      let users ← ofChecked (Checked.add device.users 1)
      return (.ok (), { device with users })

/-- Powers the sensor down if no reference is held. -/
def powerDownUnused (device : Device) : Action Device :=
  if device.users = 0 then device.powerDown else return device

/-- Drops a power reference, powering the sensor down with the last one. -/
def releasePower (device : Device) : Action Device :=
  if device.users = 0 then
    return device
  else do
    let device ← { device with users := device.users - 1 }.powerDownUnused
    returnReference
    return device

/-- Requests power explicitly, or withdraws the request. Repeating a request does nothing. -/
def setPower (device : Device) (on : Bool) : Action (Except DeviceError Unit × Device) :=
  if device.powerRequested = on then
    return (.ok (), device)
  else if on then do
    let (outcome, device) ← device.acquirePower
    match outcome with
    | .error e => return (.error e, device)
    | .ok () => return (.ok (), { device with powerRequested := true })
  else do
    let device ← device.releasePower
    return (.ok (), { device with powerRequested := false })

end ImageSensor.Device
