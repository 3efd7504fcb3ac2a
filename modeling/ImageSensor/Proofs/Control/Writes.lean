import ImageSensor.Control.Bank

/-!
# Registers a Control Bank Writes

A control bank writes to the five control registers and to no others, whatever is selected or set.

## Main statements

- `forControl_of_replay`, `forControl_of_selectMode`, `forControl_of_set`, `forControl_of_setRaw`:
  all writes that a bank hands out are for control registers.
-/

namespace ImageSensor

/-- A write to a register that holds a control. -/
def RegisterWrite.ForControl (write : RegisterWrite) : Prop :=
  write.address ∈ [Register.frameLengthLines, Register.exposure, Register.analogGain,
    Register.digitalGain, Register.testPattern]

namespace ControlBank

variable {bank : ControlBank}

theorem forControl_of_registerWrite? {id : ControlId} {write : RegisterWrite}
    (result : bank.registerWrite? id = .ok (some write)) : write.ForControl := by
  unfold registerWrite? at result
  split at result
  · cases result
  · cases id <;> simp only [encode] at result
    case verticalBlank =>
      -- the only write that may not exist, for want of a sum of blank and height
      obtain ⟨total, -, result⟩ := Checked.bind_eq_ok_iff.1 result
      cases result
      simp [RegisterWrite.ForControl]
    all_goals cases result <;> simp [RegisterWrite.ForControl]

theorem forControl_of_writesOf {ids : List ControlId} {writes : List RegisterWrite}
    (result : bank.writesOf ids = .ok writes) : ∀ write ∈ writes, write.ForControl := by
  induction ids generalizing writes with
  | nil =>
    cases result
    simp
  | cons id rest ih =>
    obtain ⟨first, here, result⟩ := Checked.bind_eq_ok_iff.1 result
    obtain ⟨later, behind, result⟩ := Checked.bind_eq_ok_iff.1 result
    cases result
    intro write member
    rcases List.mem_append.1 member with member | member
    · rw [Option.mem_toList] at member
      exact forControl_of_registerWrite? (here.trans (congrArg Except.ok member))
    · exact ih behind write member

theorem forControl_of_replay {writes : List RegisterWrite} (result : bank.replay = .ok writes) :
    ∀ write ∈ writes, write.ForControl :=
  forControl_of_writesOf result

theorem forControl_of_followVerticalBlank {adjustment : Adjustment}
    (result : bank.followVerticalBlank = .ok adjustment) :
    ∀ write ∈ adjustment.writes, write.ForControl := by
  obtain ⟨total, -, result⟩ := Checked.bind_eq_ok_iff.1 result
  obtain ⟨maximum, -, result⟩ := Checked.bind_eq_ok_iff.1 result
  obtain ⟨exposure, -, result⟩ := Checked.bind_eq_ok_iff.1 result
  obtain ⟨writes, written, result⟩ := Checked.bind_eq_ok_iff.1 result
  cases result
  exact forControl_of_writesOf written

theorem forControl_of_selectMode {mode : Mode} {adjustment : Adjustment}
    (result : bank.selectMode mode = .ok adjustment) :
    ∀ write ∈ adjustment.writes, write.ForControl := by
  obtain ⟨pixelRate, -, result⟩ := Checked.bind_eq_ok_iff.1 result
  obtain ⟨blank, -, result⟩ := Checked.bind_eq_ok_iff.1 result
  obtain ⟨horizontalBlank, -, result⟩ := Checked.bind_eq_ok_iff.1 result
  obtain ⟨verticalDefault, -, result⟩ := Checked.bind_eq_ok_iff.1 result
  obtain ⟨verticalMax, -, result⟩ := Checked.bind_eq_ok_iff.1 result
  obtain ⟨verticalBlank, -, result⟩ := Checked.bind_eq_ok_iff.1 result
  exact forControl_of_followVerticalBlank result

theorem forControl_of_set {id : ControlId} {v : Int} {adjustment : Adjustment}
    (result : bank.set id v = .ok (.ok adjustment)) :
    ∀ write ∈ adjustment.writes, write.ForControl := by
  unfold set at result
  split at result
  · cases result
  · obtain ⟨requested, -, result⟩ := Checked.bind_eq_ok_iff.1 result
    rcases requested with e | setting
    · cases result
    dsimp only at result
    split at result
    · obtain ⟨_, followed, result⟩ := Checked.bind_eq_ok_iff.1 result
      cases result
      exact forControl_of_followVerticalBlank followed
    · obtain ⟨writes, written, result⟩ := Checked.bind_eq_ok_iff.1 result
      cases result
      exact forControl_of_writesOf written

theorem forControl_of_setRaw {cid : UInt32} {v : Int} {adjustment : Adjustment}
    (result : bank.setRaw cid v = .ok (.ok adjustment)) :
    ∀ write ∈ adjustment.writes, write.ForControl := by
  unfold setRaw at result
  split at result
  · cases result
  · exact forControl_of_set result

end ControlBank

end ImageSensor
