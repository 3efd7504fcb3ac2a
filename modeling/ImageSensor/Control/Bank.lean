import ImageSensor.Control
import ImageSensor.Mode
import ImageSensor.Error

/-!
# Control Bank

The controls of one mode with their settings. Setting a control yields the register writes that
bring the sensor up to date; whether they are sent is not decided here.

Two dependencies tie the controls together: the ranges of the blanks follow from the mode, and the
exposure has to stay four lines below the vertical total, which the vertical blank determines. A
change of the vertical blank therefore writes the exposure first, if it has to shrink, and then
the total.
-/

namespace ImageSensor

/-! ## §1 Limits -/

/-- Shortest exposure, in lines. -/
def exposureMin : Int := 1

/-- Lines the exposure stays below the vertical total. -/
def exposureMargin : Int := 4

/-- Range and default of the analog gain. -/
def analogGainRange : Setting := .atDefault 0x20 0x200 0x100

/-- Range and default of the digital gain. -/
def digitalGainRange : Setting := .atDefault 0x100 0xfff 0x100

/-- Test patterns by number. -/
def testPatterns : List String :=
  ["Disabled", "Vertical Color Bar Type 1", "Vertical Color Bar Type 2",
    "Vertical Color Bar Type 3"]

/-- Register value of a test pattern: bit seven turns the generator on, the low bits choose. -/
def testPatternRegister (index : UInt32) : UInt32 :=
  if index > 0 then (index - 1) ||| 0x80 else 0x00

/-! ## §2 The bank -/

/-- The settings of all controls. The digital gain is present only if it is offered. -/
structure ControlBank where
  /-- Mode the ranges are derived from. -/
  mode : Mode
  linkFrequency : Setting
  pixelRate : Setting
  horizontalBlank : Setting
  verticalBlank : Setting
  exposure : Setting
  analogGain : Setting
  digitalGain : Option Setting
  testPattern : Setting
  deriving DecidableEq, Repr

/-- A bank after a change, with the register writes the change causes, in order. -/
structure Adjustment where
  bank : ControlBank
  writes : List RegisterWrite
  deriving DecidableEq, Repr

namespace ControlBank

/-- The controls of a mode, at their defaults. -/
def ofMode (mode : Mode) (digitalGain : Bool) : Checked ControlBank := do
  let horizontalBlank ← mode.horizontalBlank
  let verticalBlank ← mode.verticalBlank
  let exposureMax ← Checked.signed (mode.verticalTotal.toNat - exposureMargin)
  let pixelRate ← mode.pixelRate
  let verticalBlankMax ← mode.verticalBlankMax
  return {
    mode
    linkFrequency := .atDefault 0 1 mode.linkFrequencyIndex
    pixelRate := .atDefault 0 pixelRateMax pixelRate
    horizontalBlank :=
      .atDefault horizontalBlank.toNat horizontalBlank.toNat horizontalBlank.toNat
    verticalBlank := .atDefault verticalBlank.toNat verticalBlankMax.toNat verticalBlank.toNat
    exposure := .atDefault exposureMin exposureMax mode.exposure.toNat
    analogGain := analogGainRange
    digitalGain := if digitalGain then some digitalGainRange else none
    testPattern := .atDefault 0 (testPatterns.length - 1) 0 }

/-- Setting of a control, if the control is present. -/
def setting? (bank : ControlBank) : ControlId → Option Setting
  | .linkFrequency => some bank.linkFrequency
  | .pixelRate => some bank.pixelRate
  | .horizontalBlank => some bank.horizontalBlank
  | .verticalBlank => some bank.verticalBlank
  | .exposure => some bank.exposure
  | .analogGain => some bank.analogGain
  | .digitalGain => bank.digitalGain
  | .testPattern => some bank.testPattern

/-- Replaces the setting of a control that is present. -/
def put (bank : ControlBank) (id : ControlId) (setting : Setting) : ControlBank :=
  match id with
  | .linkFrequency => { bank with linkFrequency := setting }
  | .pixelRate => { bank with pixelRate := setting }
  | .horizontalBlank => { bank with horizontalBlank := setting }
  | .verticalBlank => { bank with verticalBlank := setting }
  | .exposure => { bank with exposure := setting }
  | .analogGain => { bank with analogGain := setting }
  | .digitalGain => { bank with digitalGain := bank.digitalGain.map fun _ => setting }
  | .testPattern => { bank with testPattern := setting }

/-- The controls present with their settings, in declaration order. -/
def settings (bank : ControlBank) : List (ControlId × Setting) :=
  ControlId.all.filterMap fun id => (bank.setting? id).map (id, ·)

/-- Current value of a control. -/
def value? (bank : ControlBank) (id : ControlId) : Option Int :=
  (bank.setting? id).map (·.value)

/-! ## §3 Register writes -/

/-- The write of a writable control with value `v`. The frame length is the vertical blank plus
the frame height. -/
def encode (bank : ControlBank) (id : ControlId) (v : UInt32) : Checked (Option RegisterWrite) :=
  match id with
  | .linkFrequency | .pixelRate | .horizontalBlank => .ok none
  | .verticalBlank => do
    let total ← Checked.add v bank.mode.height
    return some ⟨Register.frameLengthLines, 2, total⟩
  | .exposure => .ok (some ⟨Register.exposure, 2, v⟩)
  | .analogGain => .ok (some ⟨Register.analogGain, 2, v⟩)
  | .digitalGain => .ok (some ⟨Register.digitalGain, 2, v⟩)
  | .testPattern => .ok (some ⟨Register.testPattern, 1, testPatternRegister v⟩)

/-- The write that holds the current value of a control; none for a control that is absent or
read-only. -/
def registerWrite? (bank : ControlBank) (id : ControlId) : Checked (Option RegisterWrite) :=
  match bank.value? id with
  | none => .ok none
  | some v => bank.encode id (UInt32.ofInt v)

/-- The writes of several controls, in order. -/
def writesOf (bank : ControlBank) : List ControlId → Checked (List RegisterWrite)
  | [] => .ok []
  | id :: rest => do
    let write ← bank.registerWrite? id
    let writes ← bank.writesOf rest
    return write.toList ++ writes

/-- The writes that restore every writable control, in declaration order. -/
def replay (bank : ControlBank) : Checked (List RegisterWrite) :=
  bank.writesOf ControlId.all

/-! ## §4 Changes -/

/-- Adapts the exposure to the vertical blank. The exposure is written if it had to move, the
vertical total always. -/
def followVerticalBlank (bank : ControlBank) : Checked Adjustment := do
  let total ← Checked.signed (bank.mode.height.toNat + bank.verticalBlank.value)
  let maximum ← Checked.signed (total - exposureMargin)
  let exposure ←
    bank.exposure.setRange bank.exposure.minimum maximum (min bank.exposure.default maximum)
  -- the exposure is written in front of the total, so that it never exceeds a shorter frame
  let moved := exposure.value != bank.exposure.value
  let bank := { bank with exposure }
  let writes ← bank.writesOf (if moved then [.exposure, .verticalBlank] else [.verticalBlank])
  return ⟨bank, writes⟩

/-- Derives the dependent controls from a new mode. -/
def selectMode (bank : ControlBank) (mode : Mode) : Checked Adjustment := do
  -- the link and its rate follow the mode within their fixed ranges
  let pixelRate ← mode.pixelRate
  let blank ← mode.horizontalBlank
  let horizontalBlank ← bank.horizontalBlank.setRange blank.toNat blank.toNat blank.toNat
  let verticalDefault ← mode.verticalBlank
  let verticalMax ← mode.verticalBlankMax
  let verticalBlank ←
    bank.verticalBlank.setRange verticalDefault.toNat verticalMax.toNat verticalDefault.toNat
  followVerticalBlank { bank with
    mode
    linkFrequency := { bank.linkFrequency with value := mode.linkFrequencyIndex }
    pixelRate := { bank.pixelRate with value := pixelRate }
    horizontalBlank
    verticalBlank }

/-- The setting of a control after a request for value `v`. -/
def request (id : ControlId) (setting : Setting) (v : Int) :
    Checked (Except ControlError Setting) :=
  if id.isReadOnly then
    .ok (.error (.readOnly id))
  else if id.kind.isMenu then
    if setting.accepts v then
      .ok (.ok { setting with value := v })
    else
      .ok (.error (.outOfRange id v))
  else do
    let setting ← setting.setNearest v
    return .ok setting

/-- Sets a control. Integers are moved into range, menu positions must be in range. -/
def set (bank : ControlBank) (id : ControlId) (v : Int) :
    Checked (Except ControlError Adjustment) := do
  match bank.setting? id with
  | none => return .error (.unsupported id.cid)
  | some setting =>
    match ← request id setting v with
    | .error e => return .error e
    | .ok setting =>
      let bank := bank.put id setting
      if id = .verticalBlank then
        let adjustment ← bank.followVerticalBlank
        return .ok adjustment
      else
        let writes ← bank.writesOf [id]
        return .ok ⟨bank, writes⟩

/-- Sets the control with a numeric identifier. -/
def setRaw (bank : ControlBank) (cid : UInt32) (v : Int) :
    Checked (Except ControlError Adjustment) :=
  match ControlId.ofCid? cid with
  | none => .ok (.error (.unsupported cid))
  | some id => bank.set id v

/-! ## §5 Reading back what was put -/

theorem setting?_put_self {bank : ControlBank} {id : ControlId} {old : Setting}
    (present : bank.setting? id = some old) (new : Setting) :
    (bank.put id new).setting? id = some new := by
  cases id <;> simp_all [setting?, put]

theorem setting?_put_of_ne {bank : ControlBank} {id other : ControlId} (h : other ≠ id)
    (new : Setting) : (bank.put id new).setting? other = bank.setting? other := by
  cases id <;> cases other <;> first | rfl | exact absurd rfl h

end ControlBank

end ImageSensor
