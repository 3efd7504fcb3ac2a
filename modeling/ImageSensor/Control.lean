import ImageSensor.Checked

/-!
# Controls

The quantities of the sensor that a user sees as controls: their identifiers, and the range with
the current value that each of them carries.

## Main statements

- `ofCid?_cid`: every control is found under its numeric identifier.
- `Setting.nearest_eq_ok`: the nearest legal value is the nearest number of the range.
-/

namespace ImageSensor

/-! ## §1 Identifiers -/

/-- The controls, in declaration order. -/
inductive ControlId where
  | linkFrequency
  | pixelRate
  | horizontalBlank
  | verticalBlank
  | exposure
  | analogGain
  | digitalGain
  | testPattern
  deriving DecidableEq, Repr

/-- How the value of a control is understood. -/
inductive ControlKind where
  | integer
  | integer64
  /-- Position in a list of names. -/
  | menu
  /-- Position in a list of integers. -/
  | integerMenu
  deriving DecidableEq, Repr

/-- Name of a kind. -/
def ControlKind.name : ControlKind → String
  | integer => "Integer"
  | integer64 => "Integer64"
  | menu => "Menu"
  | integerMenu => "IntegerMenu"

/-- Values of a menu have to be in range; other values are moved into it. -/
def ControlKind.isMenu : ControlKind → Bool
  | integer | integer64 => false
  | menu | integerMenu => true

namespace ControlId

/-- All controls, in declaration order. -/
def all : List ControlId :=
  [linkFrequency, pixelRate, horizontalBlank, verticalBlank, exposure, analogGain, digitalGain,
    testPattern]

/-- Numeric identifier of a control. -/
def cid : ControlId → UInt32
  | linkFrequency => 0x009f0901
  | pixelRate => 0x009f0902
  | horizontalBlank => 0x009e0902
  | verticalBlank => 0x009e0901
  | exposure => 0x00980911
  | analogGain => 0x009e0903
  | digitalGain => 0x009f0905
  | testPattern => 0x009f0903

/-- The control with a given numeric identifier. -/
def ofCid? (cid : UInt32) : Option ControlId :=
  all.find? (·.cid == cid)

/-- Name of a control. -/
def name : ControlId → String
  | linkFrequency => "LinkFrequency"
  | pixelRate => "PixelRate"
  | horizontalBlank => "HorizontalBlank"
  | verticalBlank => "VerticalBlank"
  | exposure => "Exposure"
  | analogGain => "AnalogGain"
  | digitalGain => "DigitalGain"
  | testPattern => "TestPattern"

/-- The control with a given name. -/
def ofName? (name : String) : Option ControlId :=
  all.find? (·.name == name)

/-- Kind of a control. -/
def kind : ControlId → ControlKind
  | linkFrequency => .integerMenu
  | pixelRate => .integer64
  | testPattern => .menu
  | horizontalBlank | verticalBlank | exposure | analogGain | digitalGain => .integer

/-- Controls that follow from the mode cannot be set. -/
def isReadOnly : ControlId → Bool
  | linkFrequency | pixelRate | horizontalBlank => true
  | verticalBlank | exposure | analogGain | digitalGain | testPattern => false

theorem mem_all (id : ControlId) : id ∈ all := by
  cases id <;> decide

theorem ofCid?_cid (id : ControlId) : ofCid? id.cid = some id := by
  cases id <;> decide

/-- A numeric identifier belongs to one control only. -/
theorem eq_of_ofCid? {cid : UInt32} {id : ControlId} (h : ofCid? cid = some id) :
    id.cid = cid := by
  simpa using List.find?_some h

end ControlId

/-! ## §2 Settings -/

/-- Distance between neighbouring legal values, the same for all controls. -/
def controlStep : Int := 1

/-- Range, default and current value of a control. -/
structure Setting where
  minimum : Int
  maximum : Int
  default : Int
  value : Int
  deriving DecidableEq, Repr

namespace Setting

/-- A setting at its default. -/
def atDefault (minimum maximum default : Int) : Setting :=
  ⟨minimum, maximum, default, default⟩

/-- The legal value nearest to `v`: in range, and a whole number of steps above the minimum. -/
def nearest (setting : Setting) (v : Int) : Checked Int := do
  let inside ← Checked.clamp setting.minimum setting.maximum v
  let above ← Checked.signed (inside - setting.minimum)
  let halfway ← Checked.signed (above + controlStep / 2)
  let legal ← Checked.signed (setting.minimum + halfway / controlStep * controlStep)
  return min legal setting.maximum

/-- Replaces the range and the default and moves the value into the range. -/
def setRange (setting : Setting) (minimum maximum default : Int) : Checked Setting := do
  let ranged : Setting := ⟨minimum, maximum, default, setting.value⟩
  let value ← ranged.nearest setting.value
  return { ranged with value }

/-- Replaces the value by the nearest legal one. -/
def setNearest (setting : Setting) (v : Int) : Checked Setting := do
  let value ← setting.nearest v
  return { setting with value }

/-- Whether `v` lies in the range. -/
def accepts (setting : Setting) (v : Int) : Bool :=
  setting.minimum ≤ v && v ≤ setting.maximum

/-- The range lies well inside the signed numbers, so that its length is one of them. -/
structure Moderate (setting : Setting) : Prop where
  low : -0x4000000000000000 ≤ setting.minimum
  high : setting.maximum < 0x4000000000000000

/-- With a step of one the nearest legal value is the nearest value of the range. -/
theorem nearest_eq_ok {setting : Setting} (moderate : setting.Moderate)
    (range : setting.minimum ≤ setting.maximum) (v : Int) :
    setting.nearest v = .ok (max setting.minimum (min v setting.maximum)) := by
  obtain ⟨low, high⟩ := moderate
  have above : Checked.signed (max setting.minimum (min v setting.maximum) - setting.minimum) =
      .ok (max setting.minimum (min v setting.maximum) - setting.minimum) :=
    Checked.signed_eq_ok_iff.2 ⟨rfl, by omega⟩
  have halfway : Checked.signed
      (max setting.minimum (min v setting.maximum) - setting.minimum + controlStep / 2) =
      .ok (max setting.minimum (min v setting.maximum) - setting.minimum) :=
    Checked.signed_eq_ok_iff.2 ⟨by simp [controlStep], by simp only [controlStep]; omega⟩
  have legal : Checked.signed (setting.minimum +
      (max setting.minimum (min v setting.maximum) - setting.minimum) / controlStep *
        controlStep) = .ok (max setting.minimum (min v setting.maximum)) := by
    simp only [controlStep, Int.ediv_one, Int.mul_one, Checked.signed_eq_ok_iff]
    omega
  simp only [nearest, Checked.clamp_eq_ok range, bind, Except.bind, above, halfway, legal, pure,
    Except.pure]
  congr 1
  omega

end Setting

end ImageSensor
