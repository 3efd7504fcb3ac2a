import ImageSensor.Device.Power

/-!
# Streaming

To stream, the sensor is powered, its mode is programmed, its controls are restored, and streaming
is enabled. Suspending turns a streaming sensor off and remembers that it streamed; resuming
starts the stream again, and a stream that cannot be started again is stopped.
-/

namespace ImageSensor.Device

open ImageSensor.Action

/-! ## §1 Sensor programming -/

/-- The writes that enable streaming: the sensor only starts if the mode select write is wrapped
in writes of the stream-on register. -/
def enableWrites : List RegisterWrite :=
  [⟨Register.streamOn, 1, 1⟩, ⟨Register.modeSelect, 1, Register.streaming⟩,
    ⟨Register.streamOn, 1, 0⟩]

/-- The write that ends streaming. -/
def standbyWrite : RegisterWrite :=
  ⟨Register.modeSelect, 1, Register.standby⟩

/-- Programs the active mode, restores the controls and enables streaming. -/
def programSensor (device : Device) : Action (Except BusError Unit) := do
  match ← device.bus.applyTable device.mode.table device.configuration.orientation with
  | .error e => return .error e
  | .ok () =>
    let restore ← ofChecked device.controls.replay
    match ← device.bus.writeAll restore with
    | .error e => return .error e
    | .ok () => device.bus.writeAll enableWrites

/-- Powers the sensor and makes it stream. -/
def streamOn (device : Device) : Action (Except DeviceError Unit × Device) := do
  let (outcome, sequencer) ← device.sequencer.powerOn
  let device := { device with sequencer }
  match outcome with
  | .error e => return (.error (.power e), device)
  | .ok () =>
    let outcome ← device.programSensor
    return (outcome.mapError .bus, device)

/-- Puts the sensor into standby. A failure is only reported. -/
def enterStandby (device : Device) : Action Unit := do
  match ← device.bus.write standbyWrite with
  | .error e => notify (.standbyFailed e)
  | .ok () => return

/-! ## §2 Start and stop -/

/-- Reports the start of a stream. -/
def announceStream (device : Device) : Action Unit := do
  let framesPerSecond ← ofChecked device.mode.interval.framesPerSecond
  notify (.streamStarting device.mode.width device.mode.height framesPerSecond)

/-- Starts streaming in the active mode, with a power reference of its own. While suspended only
the reference is taken, and the stream starts on resume. -/
def start (device : Device) : Action (Except DeviceError Unit × Device) :=
  match device.stream with
  | .streaming => return (.ok (), device)
  | .stopped => do
    device.announceStream
    let (outcome, device) ← device.acquirePower
    match outcome with
    | .error e => return (.error e, device)
    | .ok () =>
      if device.suspended then
        notify .streamDeferred
        return (.ok (), { device with stream := .streaming })
      else
        let (outcome, device) ← device.streamOn
        match outcome with
        | .error e =>
          notify (.streamFailed e)
          let device ← device.releasePower
          return (.error e, device)
        | .ok () => return (.ok (), { device with stream := .streaming })

/-- Puts the sensor into standby, unless it is suspended. -/
def quiesce (device : Device) : Action Unit :=
  if device.suspended then return else device.enterStandby

/-- Stops streaming. Always ends stopped. -/
def stop (device : Device) : Action Device :=
  match device.stream with
  | .stopped => return device
  | .streaming => do
    notify .streamStopping
    device.quiesce
    let device ← device.releasePower
    return { device with stream := .stopped }

/-- Starts or stops streaming. -/
def setStream (device : Device) (on : Bool) : Action (Except DeviceError Unit × Device) :=
  if on then
    device.start
  else do
    let device ← device.stop
    return (.ok (), device)

/-! ## §3 Suspend and resume -/

/-- Puts a streaming sensor into standby. -/
def pauseStream (device : Device) : Action Unit :=
  match device.stream with
  | .stopped => return
  | .streaming => device.enterStandby

/-- Turns the sensor off for the sleep of the system. What it was doing is kept to be resumed. -/
def suspend (device : Device) : Action Device :=
  if device.suspended then
    return device
  else do
    notify .suspending
    device.pauseStream
    let device ← device.powerDown
    return { device with suspended := true }

/-- Brings the sensor back to what the stream and the references ask for. -/
def restore (device : Device) : Action (Except DeviceError Unit × Device) :=
  match device.stream with
  | .streaming => device.streamOn
  | .stopped => if 0 < device.users then device.powerUp else return (.ok (), device)

/-- Ends a suspension. A stream that cannot be started again is stopped. -/
def resume (device : Device) : Action (Except DeviceError Unit × Device) :=
  if device.suspended then do
    notify .resuming
    let (outcome, device) ← { device with suspended := false }.restore
    match outcome with
    | .error e =>
      notify (.resumeFailed e)
      -- the suspension has ended, so a stream that failed is stopped like any other
      let device ← device.stop
      return (.error e, device)
    | .ok () => return (.ok (), device)
  else
    return (.ok (), device)

end ImageSensor.Device
