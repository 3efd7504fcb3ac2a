import ImageSensor.Board.Pins
import ImageSensor.Power

/-!
# The Camera Board

A board with the sensor on its camera connector: which pins it uses, how they are set up, and how
the board answers the calls of the power sequencer. The reference clock comes from an oscillator
that always runs at one rate, so only the supplies are switched.
-/

namespace ImageSensor.Board

/-! ## §1 Pin assignment -/

/-- Crystal of the board, in MHz. -/
def crystal : Nat := 25

/-- Clock of the register bus. -/
def busClock : BoardPin := ⟨.b, 8⟩

/-- Data of the register bus. -/
def busData : BoardPin := ⟨.b, 9⟩

/-- Load switch of the sensor supplies. -/
def regulator : BoardPin := ⟨.b, 4⟩

/-- User button. -/
def button : BoardPin := ⟨.i, 11⟩

/-- The pins that control the sensor. -/
def controlPin : ControlPin → BoardPin
  | .powerEnable => ⟨.h, 13⟩
  | .reset => ⟨.g, 6⟩
  | .powerDown => ⟨.g, 7⟩

/-- All control pins are wired. -/
def wiring : Wiring := ⟨true, true, true⟩

/-! ## §2 Set-up -/

/-- Makes a pin an open drain line of the register bus, pulled up. -/
def configureBusPin (image : Image) (pin : BoardPin) : Image :=
  ((image.useAlternate pin 4).pullUp pin).setOpenDrain pin true

/-- Sets up the pins of the sensor. Control pins and supplies start low, with the sensor off. -/
def configurePins (image : Image) : Image :=
  let image := ((image.enableGroup .b).enableGroup .g).enableGroup .h
  let image := configureBusPin image busClock
  let image := configureBusPin image busData
  let image := image.useOutput (controlPin .powerEnable)
  let image := image.useOutput (controlPin .reset)
  let image := image.useOutput (controlPin .powerDown)
  let image := image.useOutput regulator
  let image := image.drive (controlPin .powerEnable) false
  let image := image.drive (controlPin .reset) false
  let image := image.drive (controlPin .powerDown) false
  image.drive regulator false

/-- Sets up the button to interrupt on its rising edge. -/
def configureButton (image : Image) : Image :=
  let image := (image.enableGroup button.group).useInput button
  ((image.useInterrupt button).triggerRising button).unmask button

/-! ## §3 Answering the sequencer -/

/-- Requests a rate of the reference clock. There is only one; another request is reported and
has no effect. -/
def requestClockRate (hz : UInt32) : Action Unit :=
  if hz = referenceClock then return else Action.notify (.fixedClock referenceClock)

/-- Switches the sensor supplies. -/
def switchSupplies (image : Image) (on : Bool) : Image :=
  image.drive regulator on

/-- The image after a call: the board drives control pins and switches supplies. -/
def after (image : Image) : Call → Image
  | .drive pin high => image.drive (controlPin pin) high
  | .enableRegulators => switchSupplies image true
  | .disableRegulators => switchSupplies image false
  | _ => image

/-- The answer of the board to a call. No call of the sequencer fails; the register bus is not
part of the image. -/
def answer : (call : Call) → call.Answer
  | .busWrite _ _ => (.error ⟨"no bus"⟩ : Except Cause Unit)
  | .busRead _ _ count => (.error ⟨"no bus"⟩ : Except Cause (Vector UInt8 count))
  | .drive _ _ => (.ok () : Except Cause Unit)
  | .delay _ => ()
  | .setClockRate _ => (.ok () : Except Cause Unit)
  | .clockRate => referenceClock
  | .enableClock => (.ok () : Except Cause Unit)
  | .disableClock => ()
  | .enableRegulators => (.ok () : Except Cause Unit)
  | .disableRegulators => ()
  | .selectPins _ => (.ok () : Except Cause Unit)
  | .acquire => (.ok () : Except Cause Unit)
  | .release => ()
  | .notify _ => ()

/-- The board as a platform whose state is the image. -/
def respond (image : Image) (call : Call) : call.Answer × Image :=
  (answer call, after image call)

end ImageSensor.Board
