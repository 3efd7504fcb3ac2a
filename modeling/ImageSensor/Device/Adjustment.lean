import ImageSensor.Device

/-!
# Formats and Controls of a Device

Negotiating a format and setting a control change what the device holds at once. The register
writes that follow are sent if the sensor can receive them; otherwise they are made up for when
streaming starts.
-/

namespace ImageSensor.Device

open ImageSensor.Action

/-- Sends writes to a sensor that can receive them. -/
def send (device : Device) (writes : List RegisterWrite) : Action (Except BusError Unit) :=
  if device.isLive then device.bus.writeAll writes else return .ok ()

/-! ## §1 Formats -/

/-- Makes a mode the active one and updates the controls that follow from it. -/
def selectMode (device : Device) (mode : Mode) : Action Device := do
  notify (.modeSelected mode.width mode.height)
  let adjustment ← ofChecked (device.controls.selectMode mode)
  let device := { device with mode, controls := adjustment.bank }
  match ← device.send adjustment.writes with
  | .error e =>
    notify (.modeUpdateFailed e)
    return device
  | .ok () => return device

/-- Negotiates a format: the supported mode closest to the size. Never fails. -/
def setFormat (device : Device) (width height : UInt32) (kind : FormatKind) :
    Action (Format × Device) :=
  let mode := Catalog.bestFit width height
  let format := mode.format device.busCode
  match kind with
  | .trial => return (format, { device with trialFormat := format })
  | .active => do
    let device ← device.selectMode mode
    return (format, device)

/-! ## §2 Controls -/

/-- Takes over the outcome of setting a control and sends its writes. -/
def adjust (device : Device) (change : Checked (Except ControlError Adjustment)) :
    Action (Except ControlError Unit × Device) := do
  match ← ofChecked change with
  | .error e => return (.error e, device)
  | .ok adjustment =>
    let device := { device with controls := adjustment.bank }
    let outcome ← device.send adjustment.writes
    return (outcome.mapError .bus, device)

/-- Sets a control. -/
def setControl (device : Device) (id : ControlId) (v : Int) :
    Action (Except ControlError Unit × Device) :=
  device.adjust (device.controls.set id v)

/-- Sets the control with a numeric identifier. -/
def setControlRaw (device : Device) (cid : UInt32) (v : Int) :
    Action (Except ControlError Unit × Device) :=
  device.adjust (device.controls.setRaw cid v)

/-- Sets controls in order and stops at the first failure. -/
def setControls (device : Device) :
    List (ControlId × Int) → Action (Except ControlError Unit × Device)
  | [] => return (.ok (), device)
  | (id, v) :: rest => do
    let (outcome, device) ← device.setControl id v
    match outcome with
    | .error e => return (.error e, device)
    | .ok () => device.setControls rest

end ImageSensor.Device
