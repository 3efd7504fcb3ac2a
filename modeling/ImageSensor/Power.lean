import ImageSensor.Platform.Action

/-!
# Power Sequencing

The sensor needs its supplies, reference clock and control pins brought up in a fixed order with
settle delays in between, and taken down in reverse. Pins that are not wired are left out. A pin,
profile or clock rate that cannot be set is only reported; a clock or supply that cannot be
enabled ends the sequence.
-/

namespace ImageSensor

/-! ## §1 Clock and delays -/

/-- Reference clock frequency in Hz, on which all modes are based. -/
def referenceClock : UInt32 := 24000000

/-- Reference clock cycles between the release of power-down and the first register access. -/
def settleCycles : UInt32 := 8192

/-- Delay after raising the power enable pin, in microseconds. -/
def powerEnableDelay : UInt32 := 1000

/-- Delay after releasing reset, in microseconds. -/
def resetDelay : UInt32 := 500

/-- Time taken by `cycles` clock cycles, in microseconds rounded up. The clock counts in whole
megahertz. -/
def settleDelay (cycles hz : UInt32) : Checked UInt32 := do
  let megahertz := hz / 1000000
  let sum ← Checked.add cycles megahertz
  let raised ← Checked.sub sum 1
  Checked.div raised megahertz

/-! ## §2 The sequencer -/

/-- Whether the sensor is powered. -/
inductive PowerState where
  | off
  | on
  deriving DecidableEq, Repr

/-- Name of a power state. -/
def PowerState.name : PowerState → String
  | off => "Off"
  | on => "On"

/-- The power sequencer of a sensor with its wiring. -/
structure Sequencer where
  wiring : Wiring
  power : PowerState
  deriving DecidableEq, Repr

namespace Sequencer

open ImageSensor.Action

/-- Reports a pin that is not wired. -/
def reportUnwired (wiring : Wiring) (pin : ControlPin) : Action Unit :=
  if wiring.has pin then return else notify (.unwired pin)

/-- A sequencer for a sensor that is off. Missing pins are reported; the module may tie them off. -/
def create (wiring : Wiring) : Action Sequencer := do
  reportUnwired wiring .powerEnable
  reportUnwired wiring .reset
  reportUnwired wiring .powerDown
  return ⟨wiring, .off⟩

/-- Drives a pin if it is wired. A failure is only reported. -/
def drive (wiring : Wiring) (pin : ControlPin) (high : Bool) : Action Unit :=
  if wiring.has pin then do
    let answer : Except Cause Unit ← ask (.drive pin high)
    match answer with
    | .ok () => return
    | .error cause => notify (.pinFailed pin cause)
  else
    return

/-- Selects a pin profile. A failure is only reported. -/
def selectPins (profile : PinProfile) : Action Unit := do
  let answer : Except Cause Unit ← ask (.selectPins profile)
  match answer with
  | .ok () => return
  | .error cause => notify (.profileFailed profile cause)

/-- Waits, in microseconds. -/
def wait (microseconds : UInt32) : Action Unit :=
  ask (.delay microseconds)

/-- Requests the rate of the reference clock. A failure is only reported. -/
def requestRate : Action Unit := do
  let answer : Except Cause Unit ← ask (.setClockRate referenceClock)
  match answer with
  | .ok () => return
  | .error cause => notify (.rateFailed cause)

/-- Reports a reference clock that runs at another rate. -/
def checkRate : Action Unit := do
  let hz : UInt32 ← ask .clockRate
  if hz = referenceClock then return else notify (.rateMismatch hz)

/-- Turns the reference clock off. -/
def disableClock : Action Unit :=
  ask .disableClock

/-- Turns the supplies off. -/
def disableRegulators : Action Unit :=
  ask .disableRegulators

/-- Power enable pin, pin profile and clock rate, in front of the clock itself. -/
def prepare (wiring : Wiring) : Action Unit := do
  notify .poweringOn
  drive wiring .powerEnable true
  wait powerEnableDelay
  selectPins .active
  requestRate
  checkRate

/-- Releases reset, then power-down, and waits until the sensor has settled. -/
def releaseReset (wiring : Wiring) : Action Unit := do
  drive wiring .reset true
  wait resetDelay
  drive wiring .powerDown true
  let settle ← ofChecked (settleDelay settleCycles referenceClock)
  wait settle

/-- Powers the sensor up. Does nothing if it is on already. -/
def powerOn (sequencer : Sequencer) : Action (Except PowerError Unit × Sequencer) := do
  match sequencer.power with
  | .on => return (.ok (), sequencer)
  | .off =>
    prepare sequencer.wiring
    let clock : Except Cause Unit ← ask .enableClock
    match clock with
    | .error cause => return (.error (.clock cause), sequencer)
    | .ok () =>
      -- the supplies come up with the sensor held in reset
      drive sequencer.wiring .reset false
      let supplies : Except Cause Unit ← ask .enableRegulators
      match supplies with
      | .error cause =>
        -- the clock was on already, and no later step turns it off
        disableClock
        return (.error (.regulators cause), sequencer)
      | .ok () =>
        releaseReset sequencer.wiring
        return (.ok (), { sequencer with power := .on })

/-- Powers the sensor down. Does nothing if it is off already. -/
def powerOff (sequencer : Sequencer) : Action Sequencer := do
  match sequencer.power with
  | .off => return sequencer
  | .on =>
    notify .poweringOff
    drive sequencer.wiring .powerDown false
    disableClock
    drive sequencer.wiring .reset false
    selectPins .sleep
    drive sequencer.wiring .powerEnable false
    disableRegulators
    return { sequencer with power := .off }

end Sequencer

end ImageSensor
