import ImageSensor.Error
import ImageSensor.Platform.Pin
import ImageSensor.Register

/-!
# Notices

What the driver reports to the log: each notice has a level and a message.
-/

namespace ImageSensor

/-! ## §1 Levels -/

/-- Importance of a notice. -/
inductive LogLevel where
  | error
  | warn
  | info
  | debug
  | trace
  deriving DecidableEq, Repr

namespace LogLevel

/-- Position from the most important level on. -/
def rank : LogLevel → Nat
  | error => 0
  | warn => 1
  | info => 2
  | debug => 3
  | trace => 4

/-- Name of a level. -/
def name : LogLevel → String
  | error => "ERROR"
  | warn => "WARN"
  | info => "INFO"
  | debug => "DEBUG"
  | trace => "TRACE"

/-- A log kept up to `limit` holds all levels that are no less important. -/
def admits (limit level : LogLevel) : Bool :=
  level.rank ≤ limit.rank

end LogLevel

/-! ## §2 Notices -/

/-- A record for the log. -/
inductive Notice where
  /-- A control pin is not wired, the module may tie it off. -/
  | unwired (pin : ControlPin)
  /-- A control pin could not be driven. -/
  | pinFailed (pin : ControlPin) (cause : Cause)
  /-- A pin profile could not be selected. -/
  | profileFailed (profile : PinProfile) (cause : Cause)
  /-- The reference clock rate could not be requested. -/
  | rateFailed (cause : Cause)
  /-- The reference clock runs at another rate. -/
  | rateMismatch (hz : UInt32)
  | poweringOn
  | poweringOff
  /-- A register is about to be written. -/
  | writing (write : RegisterWrite)
  /-- A register table has been written. -/
  | tableApplied (size : Nat)
  /-- Another chip answers. -/
  | unexpectedChip (id expected : UInt16)
  | detected (id : UInt16) (revision : UInt8)
  | streamStarting (width height framesPerSecond : UInt32)
  /-- The sensor is suspended, so that the stream starts on resume. -/
  | streamDeferred
  | streamFailed (error : DeviceError)
  | streamStopping
  /-- The write that ends streaming failed. -/
  | standbyFailed (error : BusError)
  | suspending
  | resuming
  | resumeFailed (error : DeviceError)
  | modeSelected (width height : UInt32)
  /-- Controls that follow from the mode could not be written. -/
  | modeUpdateFailed (error : BusError)
  /-- The reference clock of the board has one rate only. -/
  | fixedClock (hz : UInt32)
  deriving DecidableEq, Repr

namespace Notice

/-- Level of a notice. -/
def level : Notice → LogLevel
  | unexpectedChip _ _ | streamFailed _ | standbyFailed _ | resumeFailed _ | modeUpdateFailed _ =>
    .error
  | unwired _ | pinFailed _ _ | profileFailed _ _ | rateFailed _ | rateMismatch _
  | fixedClock _ => .warn
  | detected _ _ | streamStarting _ _ _ | streamStopping => .info
  | poweringOn | poweringOff | tableApplied _ | streamDeferred | suspending | resuming
  | modeSelected _ _ => .debug
  | writing _ => .trace

/-- A frame size as width and height. -/
def sizeText (width height : UInt32) : String :=
  width.toNat.repr ++ "x" ++ height.toNat.repr

/-- Text of a notice. -/
def message : Notice → String
  | unwired pin => "no " ++ pin.title ++ " pin"
  | pinFailed pin cause => "failed to drive " ++ pin.label ++ " pin: " ++ cause.reason
  | profileFailed .active cause => "could not select active pin profile: " ++ cause.reason
  | profileFailed .sleep cause => "could not select sleep pin profile: " ++ cause.reason
  | rateFailed cause => "failed to set xvclk rate (24MHz): " ++ cause.reason
  | rateMismatch hz =>
    "xvclk mismatched, modes are based on 24MHz, got " ++ hz.toNat.repr ++ "Hz"
  | poweringOn => "power on"
  | poweringOff => "power off"
  | writing write =>
    "write 0x" ++ Hex.padded 4 write.address.toNat ++ " = 0x" ++ Hex.plain write.value.toNat ++
      " (" ++ write.width.toNat.repr ++ " bytes)"
  | tableApplied size => "applied " ++ size.repr ++ " register writes"
  | unexpectedChip id expected =>
    "unexpected sensor id 0x" ++ Hex.padded 4 id.toNat ++ ", expected 0x" ++
      Hex.padded 4 expected.toNat
  | detected id revision =>
    "detected S5K3L6 sensor, id 0x" ++ Hex.padded 4 id.toNat ++ " revision 0x" ++
      Hex.padded 2 revision.toNat
  | streamStarting width height framesPerSecond =>
    "start stream " ++ sizeText width height ++ "@" ++ framesPerSecond.toNat.repr
  | streamDeferred => "suspended, stream starts on resume"
  | streamFailed error => "failed to start stream: " ++ error.inspect
  | streamStopping => "stop stream"
  | standbyFailed error => "failed to enter standby: " ++ error.inspect
  | suspending => "suspend"
  | resuming => "resume"
  | resumeFailed error => "failed to resume: " ++ error.inspect
  | modeSelected width height => "select mode " ++ sizeText width height
  | modeUpdateFailed error => "failed to update mode controls: " ++ error.inspect
  | fixedClock hz => "reference clock is fixed at " ++ hz.toNat.repr ++ "Hz"

/-- Line of a notice in a log kept up to `limit`; without a limit there is no log. -/
def line? (limit : Option LogLevel) (notice : Notice) : Option String :=
  match limit with
  | none => none
  | some limit =>
    if limit.admits notice.level then
      some ("log " ++ notice.level.name ++ " " ++ notice.message)
    else
      none

end Notice

end ImageSensor
