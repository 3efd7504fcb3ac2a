import ImageSensor.Proofs.Control.Ranges

/-!
# How a Control Bank Changes

The ways a bank can come out of setting a control or selecting a mode, each with the controls whose
registers are written. A vertical blank that moves takes the exposure along; nothing else depends on
the value of another control.

## Main statements

- `followed_of_followVerticalBlank`, `selected_of_selectMode`, `wasSet_of_set`,
  `wasSet_of_setRaw`: every change that has a result is one of the cases.
- `exists_setting_of_set`: what was requested of a control that was set.
- `Followed.exists_writesOf`, `Selected.exists_writesOf`, `WasSet.exists_writesOf`: what is written
  are values of the changed bank.
- `Followed.bank_eq`, `Followed.exposure_le`: following the vertical blank replaces the upper end of
  the exposure, so the exposure never grows.
-/

namespace ImageSensor

/-- The setting with a new upper end of its range, to which default and value are lowered. -/
def Setting.limited (setting : Setting) (maximum : Int) : Setting :=
  { setting with
    maximum
    default := min setting.default maximum
    value := min setting.value maximum }

/-- If only the upper end of the range is replaced, a value in range can only move down. -/
theorem Setting.setRange_eq_limited {setting : Setting} {high : Int}
    (bounded : Bounded setting.minimum high) (above : setting.minimum ≤ setting.value) :
    setting.setRange setting.minimum high (min setting.default high) =
      .ok (setting.limited high) := by
  have inside : max setting.minimum (min setting.value high) = min setting.value high := by
    have nonempty := bounded.nonempty
    omega
  rw [setRange_eq bounded, inside]
  rfl

namespace ControlBank

variable {bank : ControlBank} {adjustment : Adjustment}

/-! ## §1 The cases -/

/-- How the exposure follows the vertical blank: its range ends below the frame, and it is written,
in front of the total, if it had to move. -/
inductive Followed (bank : ControlBank) : Adjustment → Prop where
  | followed {exposure : Setting} {writes : List RegisterWrite}
      (ranged : bank.exposure.setRange bank.exposure.minimum (bank.lines - exposureMargin)
        (min bank.exposure.default (bank.lines - exposureMargin)) = .ok exposure)
      (written : (bank.put .exposure exposure).writesOf
        (if exposure.value != bank.exposure.value then [.exposure, .verticalBlank]
          else [.verticalBlank]) = .ok writes) :
      Followed bank ⟨bank.put .exposure exposure, writes⟩

theorem followed_of_followVerticalBlank (result : bank.followVerticalBlank = .ok adjustment) :
    bank.Followed adjustment := by
  obtain ⟨total, counted, result⟩ := Checked.bind_eq_ok_iff.1 result
  obtain ⟨maximum, limited, result⟩ := Checked.bind_eq_ok_iff.1 result
  obtain ⟨exposure, ranged, result⟩ := Checked.bind_eq_ok_iff.1 result
  obtain ⟨writes, written, result⟩ := Checked.bind_eq_ok_iff.1 result
  cases result
  obtain ⟨rfl, -⟩ := Checked.signed_eq_ok_iff.1 counted
  obtain ⟨rfl, -⟩ := Checked.signed_eq_ok_iff.1 limited
  exact .followed ranged written

/-- How selecting a mode can go: the controls that follow from the mode are derived, then the
exposure follows. -/
inductive Selected (bank : ControlBank) (mode : Mode) : Adjustment → Prop where
  | selected {linkFrequency pixelRate horizontalBlank verticalBlank : Setting}
      {adjustment : Adjustment}
      (followed : { bank with
        mode, linkFrequency, pixelRate, horizontalBlank, verticalBlank }.Followed adjustment) :
      Selected bank mode adjustment

theorem selected_of_selectMode {mode : Mode} (result : bank.selectMode mode = .ok adjustment) :
    bank.Selected mode adjustment := by
  obtain ⟨pixelRate, -, result⟩ := Checked.bind_eq_ok_iff.1 result
  obtain ⟨blank, -, result⟩ := Checked.bind_eq_ok_iff.1 result
  obtain ⟨horizontalBlank, -, result⟩ := Checked.bind_eq_ok_iff.1 result
  obtain ⟨verticalDefault, -, result⟩ := Checked.bind_eq_ok_iff.1 result
  obtain ⟨verticalMax, -, result⟩ := Checked.bind_eq_ok_iff.1 result
  obtain ⟨verticalBlank, -, result⟩ := Checked.bind_eq_ok_iff.1 result
  exact .selected (followed_of_followVerticalBlank result)

/-- How setting a control can go, if it is accepted. -/
inductive WasSet (bank : ControlBank) : ControlId → Adjustment → Prop where
  | alone {id : ControlId} {old setting : Setting} {writes : List RegisterWrite}
      (writable : id.isReadOnly = false) (other : id ≠ .verticalBlank)
      (present : bank.setting? id = some old)
      (written : (bank.put id setting).writesOf [id] = .ok writes) :
      WasSet bank id ⟨bank.put id setting, writes⟩
  | blank {setting : Setting} {adjustment : Adjustment}
      (followed : (bank.put .verticalBlank setting).Followed adjustment) :
      WasSet bank .verticalBlank adjustment

/-- A request that is accepted replaces the setting; the exposure follows the vertical blank. -/
theorem exists_setting_of_set {id : ControlId} {v : Int}
    (result : bank.set id v = .ok (.ok adjustment)) :
    ∃ old setting, bank.setting? id = some old ∧ request id old v = .ok (.ok setting) ∧
      ((id = .verticalBlank ∧ (bank.put id setting).Followed adjustment) ∨
        id ≠ .verticalBlank ∧ adjustment.bank = bank.put id setting ∧
          (bank.put id setting).writesOf [id] = .ok adjustment.writes) := by
  unfold set at result
  split at result
  case h_1 => cases result
  case h_2 old present =>
    obtain ⟨requested, accepted, result⟩ := Checked.bind_eq_ok_iff.1 result
    rcases requested with e | setting
    · cases result
    dsimp only at result
    refine ⟨old, setting, present, accepted, ?_⟩
    split at result
    case isTrue same =>
      obtain ⟨_, followed, result⟩ := Checked.bind_eq_ok_iff.1 result
      cases result
      exact .inl ⟨same, followed_of_followVerticalBlank followed⟩
    case isFalse other =>
      obtain ⟨writes, written, result⟩ := Checked.bind_eq_ok_iff.1 result
      cases result
      exact .inr ⟨other, rfl, written⟩

/-- A read-only control is refused in front of everything else. -/
theorem isReadOnly_of_request {id : ControlId} {old setting : Setting} {v : Int}
    (accepted : request id old v = .ok (.ok setting)) : id.isReadOnly = false := by
  cases readOnly : id.isReadOnly with
  | false => rfl
  | true =>
    rw [request, if_pos readOnly] at accepted
    cases accepted

theorem wasSet_of_set {id : ControlId} {v : Int}
    (result : bank.set id v = .ok (.ok adjustment)) : bank.WasSet id adjustment := by
  obtain ⟨old, setting, present, accepted, ⟨rfl, followed⟩ | ⟨other, same, written⟩⟩ :=
    exists_setting_of_set result
  · exact .blank followed
  · obtain ⟨bank', writes⟩ := adjustment
    dsimp only at same written
    subst same
    exact .alone (isReadOnly_of_request accepted) other present written

theorem wasSet_of_setRaw {cid : UInt32} {v : Int}
    (result : bank.setRaw cid v = .ok (.ok adjustment)) : ∃ id, bank.WasSet id adjustment := by
  unfold setRaw at result
  split at result
  · cases result
  · exact ⟨_, wasSet_of_set result⟩

/-! ## §2 What a change leaves alone -/

theorem isSome_put (bank : ControlBank) (id : ControlId) (setting : Setting) :
    (bank.put id setting).digitalGain.isSome = bank.digitalGain.isSome := by
  cases id with
  | digitalGain => exact Option.isSome_map
  | _ => rfl

theorem Followed.mode_eq (followed : bank.Followed adjustment) :
    adjustment.bank.mode = bank.mode := by
  cases followed
  rfl

theorem Followed.offers (followed : bank.Followed adjustment) :
    adjustment.bank.digitalGain.isSome = bank.digitalGain.isSome := by
  cases followed
  rfl

theorem Selected.mode_eq {mode : Mode} (selected : bank.Selected mode adjustment) :
    adjustment.bank.mode = mode := by
  cases selected with
  | selected followed => exact followed.mode_eq

theorem Selected.offers {mode : Mode} (selected : bank.Selected mode adjustment) :
    adjustment.bank.digitalGain.isSome = bank.digitalGain.isSome := by
  cases selected with
  | selected followed => exact followed.offers

theorem WasSet.mode_eq {id : ControlId} (set : bank.WasSet id adjustment) :
    adjustment.bank.mode = bank.mode := by
  cases set with
  | alone writable other present written => exact mode_put _ _ _
  | blank followed => exact followed.mode_eq

theorem WasSet.offers {id : ControlId} (set : bank.WasSet id adjustment) :
    adjustment.bank.digitalGain.isSome = bank.digitalGain.isSome := by
  cases set with
  | alone writable other present written => exact isSome_put _ _ _
  | blank followed => exact followed.offers

/-! ## §3 What a change writes -/

/-- The total is written with its new value, and so is the exposure in front of it, if it moved. -/
theorem Followed.writesOf_eq (followed : bank.Followed adjustment) :
    adjustment.bank.writesOf (if adjustment.bank.exposure.value ≠ bank.exposure.value then
      [.exposure, .verticalBlank] else [.verticalBlank]) = .ok adjustment.writes := by
  cases followed with
  | followed ranged written =>
    simp only [bne_iff_ne] at written
    exact written

/-- The writes hold values of the changed bank. -/
theorem Followed.exists_writesOf (followed : bank.Followed adjustment) :
    ∃ ids, adjustment.bank.writesOf ids = .ok adjustment.writes :=
  ⟨_, followed.writesOf_eq⟩

theorem Selected.exists_writesOf {mode : Mode} (selected : bank.Selected mode adjustment) :
    ∃ ids, adjustment.bank.writesOf ids = .ok adjustment.writes := by
  cases selected with
  | selected followed => exact followed.exists_writesOf

theorem WasSet.exists_writesOf {id : ControlId} (set : bank.WasSet id adjustment) :
    ∃ ids, adjustment.bank.writesOf ids = .ok adjustment.writes := by
  cases set with
  | alone writable other present written => exact ⟨_, written⟩
  | blank followed => exact followed.exists_writesOf

/-! ## §4 The exposure -/

/-- All that the vertical blank changes is the upper end of the exposure, with what lies above. -/
theorem Followed.bank_eq (followed : bank.Followed adjustment) (sound : adjustment.bank.Sound)
    (minimum : bank.exposure.minimum = exposureMin)
    (positive : exposureMin ≤ bank.exposure.value) :
    adjustment.bank =
      bank.put .exposure (bank.exposure.limited (bank.lines - exposureMargin)) := by
  have bounded := sound.ranged.bounded .exposure
  cases followed with
  | followed ranged written =>
    rw [← minimum] at positive
    have bounded : Setting.Bounded bank.exposure.minimum (bank.lines - exposureMargin) := by
      rw [minimum]
      exact bounded
    rw [Setting.setRange_eq_limited bounded positive] at ranged
    rw [Except.ok.inj ranged]

/-- The exposure never grows when it follows the vertical blank. -/
theorem Followed.exposure_le (followed : bank.Followed adjustment) (sound : adjustment.bank.Sound)
    (minimum : bank.exposure.minimum = exposureMin)
    (positive : exposureMin ≤ bank.exposure.value) :
    adjustment.bank.exposure.value ≤ bank.exposure.value := by
  rw [followed.bank_eq sound minimum positive]
  exact Int.min_le_left _ _

end ControlBank

end ImageSensor
