import ImageSensor.Bench

/-!
# Bench Transcripts

A run on the bench as lines of text: one line per call, with a mark behind the first word of a
call that failed, and the log up to a level.
-/

namespace ImageSensor

/-! ## §1 Parts of a line -/

/-- The mark of a failed call. -/
def failureMark {α : Type} : Except Cause α → String
  | .ok _ => ""
  | .error _ => "!"

/-- Bytes as pairs of hexadecimal digits. -/
def bytesText (bytes : List UInt8) : String :=
  String.join (bytes.map fun byte => Hex.padded 2 byte.toNat)

/-- Short name of a control pin. -/
def ControlPin.tag : ControlPin → String
  | powerEnable => "power"
  | reset => "reset"
  | powerDown => "powerdown"

/-- Name of a pin profile. -/
def PinProfile.name : PinProfile → String
  | active => "Active"
  | sleep => "Sleep"

/-- Level of a pin. -/
def levelText (high : Bool) : String :=
  if high then "1" else "0"

/-! ## §2 Lines -/

/-- What a transcript shows: the log up to a level, and the power manager if there is one. -/
structure TranscriptView where
  limit : Option LogLevel := none
  managed : Bool := true
  deriving DecidableEq, Repr

/-- Line of a call with its answer, if it is shown. -/
def TranscriptView.line? (view : TranscriptView) : (call : Call) → call.Answer → Option String
  | .busWrite address bytes, (answer : Except Cause Unit) =>
    some ("W" ++ failureMark answer ++ " " ++ bytesText [address] ++ " " ++ bytesText bytes)
  | .busRead address bytes count, (answer : Except Cause (Vector UInt8 count)) =>
    some ("R" ++ failureMark answer ++ " " ++ bytesText [address] ++ " " ++ bytesText bytes ++
      " " ++ count.repr)
  | .drive pin high, (answer : Except Cause Unit) =>
    some ("pin" ++ failureMark answer ++ " " ++ pin.tag ++ " " ++ levelText high)
  | .delay microseconds, _ => some ("delay " ++ microseconds.toNat.repr)
  | .setClockRate hz, (answer : Except Cause Unit) =>
    some ("rate" ++ failureMark answer ++ " " ++ hz.toNat.repr)
  | .clockRate, _ => none
  | .enableClock, (answer : Except Cause Unit) => some ("clock-on" ++ failureMark answer)
  | .disableClock, _ => some "clock-off"
  | .enableRegulators, (answer : Except Cause Unit) =>
    some ("regulators-on" ++ failureMark answer)
  | .disableRegulators, _ => some "regulators-off"
  | .selectPins profile, (answer : Except Cause Unit) =>
    some ("mux" ++ failureMark answer ++ " " ++ profile.name)
  | .acquire, (answer : Except Cause Unit) =>
    if view.managed then some ("acquire" ++ failureMark answer) else none
  | .release, _ => if view.managed then some "release" else none
  | .notify notice, _ => notice.line? view.limit

/-- The lines of a run. -/
def TranscriptView.lines (view : TranscriptView) (events : List Event) : List String :=
  events.filterMap fun event => view.line? event.call event.answer

end ImageSensor
