import ImageSensor.Board
import ImageSensor.Text.Hex

/-!
# Board Transcripts

A run on the board as lines of text: the log up to a level, and each delay with the output words
of the pin groups in use at that moment.
-/

namespace ImageSensor.Board

/-- A group's set-and-reset word. -/
def outputText (image : Image) (group : PinGroup) : String :=
  group.letter ++ "=" ++ Hex.padded 8 (image.read (.group group .bsrr)).toNat

/-- The line of a call that leaves the given image. -/
def line? (limit : Option LogLevel) (image : Image) : Call → Option String
  | .delay microseconds =>
    some ("delay " ++ microseconds.toNat.repr ++ " " ++ outputText image .b ++ " " ++
      outputText image .g ++ " " ++ outputText image .h)
  | .notify notice => notice.line? limit
  | _ => none

/-- The lines of a run that starts with the given image. -/
def transcript (limit : Option LogLevel) (image : Image) : List Event → List String
  | [] => []
  | event :: rest =>
    let image := after image event.call
    (line? limit image event.call).toList ++ transcript limit image rest

end ImageSensor.Board
