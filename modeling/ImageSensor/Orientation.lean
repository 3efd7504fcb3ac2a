/-!
# Orientation

How the sensor is mounted. Mirroring and flipping shift the phase of the Bayer pattern, so the
orientation fixes the code under which the receiver knows the pixel data.
-/

namespace ImageSensor

/-! ## §1 Bus codes -/

/-- Order of the colour filters in raw ten bit Bayer data. -/
inductive BusCode where
  | sbggr10
  | sgrbg10
  | sgbrg10
  | srggb10
  deriving DecidableEq, Repr

namespace BusCode

/-- The number of the code on the media bus. -/
def code : BusCode → UInt32
  | sbggr10 => 0x3007
  | sgrbg10 => 0x300a
  | sgbrg10 => 0x300e
  | srggb10 => 0x300f

/-- Name of the code. -/
def name : BusCode → String
  | sbggr10 => "Sbggr10"
  | sgrbg10 => "Sgrbg10"
  | sgbrg10 => "Sgbrg10"
  | srggb10 => "Srggb10"

/-- All codes. -/
def all : List BusCode := [sbggr10, sgrbg10, sgbrg10, srggb10]

/-- The code with a given number. -/
def ofCode? (code : UInt32) : Option BusCode :=
  all.find? (·.code == code)

end BusCode

/-! ## §2 Orientations -/

/-- Mounting of the sensor on its module. -/
inductive Orientation where
  | normal
  | mirror
  | flip
  | flipMirror
  deriving DecidableEq, Repr

namespace Orientation

/-- Bus code of the pixel data in this orientation. -/
def busCode : Orientation → BusCode
  | normal => .sgrbg10
  | mirror => .srggb10
  | flip => .sbggr10
  | flipMirror => .sgbrg10

/-- The orientation word, written in front of every register table. -/
def registerValue : Orientation → UInt32
  | normal => 0x00
  | mirror => 0x01
  | flip => 0x02
  | flipMirror => 0x03

/-- Name of the orientation. -/
def name : Orientation → String
  | normal => "Normal"
  | mirror => "Mirror"
  | flip => "Flip"
  | flipMirror => "FlipMirror"

/-- All orientations. -/
def all : List Orientation := [normal, mirror, flip, flipMirror]

/-- The orientation with a given name; upper and lower case differ. -/
def ofName? (name : String) : Option Orientation :=
  all.find? (·.name == name)

theorem ofName?_name (orientation : Orientation) :
    ofName? orientation.name = some orientation := by
  cases orientation <;> decide

end Orientation

end ImageSensor
