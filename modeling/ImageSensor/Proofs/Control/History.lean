import ImageSensor.Proofs.Control.Changes

/-!
# Histories of a Control Bank

A history is any sequence of changes of a bank: controls that are set, by identifier or by number,
and modes that are selected. A request that is refused leaves the bank as it is. Along every history
over well-formed modes all computations have results, the settings stay in the ranges that follow
from the mode, and the same controls are on offer in the same order.

## Main statements

- `Sound.change_ok`: one change of a sound bank has a result, and it is sound again.
- `Sound.changeAll_ok`: so has a whole history.
- `history_ok`: what every bank looks like that a history leads to.
-/

namespace ImageSensor

/-! ## §1 Histories -/

/-- A change that is asked of a bank. -/
inductive ControlChange where
  | set (id : ControlId) (v : Int)
  | setRaw (cid : UInt32) (v : Int)
  | selectMode (mode : Mode)

namespace ControlChange

/-- Modes that are selected are well formed. Controls may be set to anything. -/
def Admissible : ControlChange → Prop
  | set _ _ | setRaw _ _ => True
  | selectMode mode => mode.WellFormed

/-- The mode after a change of a bank in mode `mode`. -/
def mode (mode : Mode) : ControlChange → Mode
  | set _ _ | setRaw _ _ => mode
  | selectMode selected => selected

end ControlChange

namespace ControlBank

/-- The bank after a request to set a control: a refused one leaves it as it is. -/
def settle (bank : ControlBank) : Except ControlError Adjustment → ControlBank
  | .error _ => bank
  | .ok adjustment => adjustment.bank

/-- Carries out a change. -/
def change (bank : ControlBank) : ControlChange → Checked ControlBank
  | .set id v => return bank.settle (← bank.set id v)
  | .setRaw cid v => return bank.settle (← bank.setRaw cid v)
  | .selectMode mode => return (← bank.selectMode mode).bank

/-- Carries out several changes, one after the other. -/
def changeAll (bank : ControlBank) : List ControlChange → Checked ControlBank
  | [] => return bank
  | change :: rest => do
    let bank ← bank.change change
    bank.changeAll rest

/-- A bank for a mode, after some changes. -/
def history (mode : Mode) (digitalGain : Bool) (changes : List ControlChange) :
    Checked ControlBank := do
  let bank ← ofMode mode digitalGain
  bank.changeAll changes

/-! ## §2 Changes have results -/

variable {bank : ControlBank}

/-- Every change of a sound bank has a result. It is sound, it is in the mode of the change, and
the digital gain is offered as before. -/
theorem Sound.change_ok (sound : bank.Sound) {change : ControlChange}
    (admissible : change.Admissible) :
    ∃ bank', bank.change change = .ok bank' ∧ bank'.Sound ∧ bank'.mode = change.mode bank.mode ∧
      bank'.digitalGain.isSome = bank.digitalGain.isSome := by
  cases change with
  | set id v =>
    obtain ⟨outcome, result, sound'⟩ := sound.set_ok id v
    refine ⟨bank.settle outcome, by rw [ControlBank.change, result]; rfl, ?_⟩
    rcases outcome with e | adjustment
    · exact ⟨sound, rfl, rfl⟩
    · have set := wasSet_of_set result
      exact ⟨sound' adjustment rfl, set.mode_eq, set.offers⟩
  | setRaw cid v =>
    obtain ⟨outcome, result, sound'⟩ := sound.setRaw_ok cid v
    refine ⟨bank.settle outcome, by rw [ControlBank.change, result]; rfl, ?_⟩
    rcases outcome with e | adjustment
    · exact ⟨sound, rfl, rfl⟩
    · obtain ⟨id, set⟩ := wasSet_of_setRaw result
      exact ⟨sound' adjustment rfl, set.mode_eq, set.offers⟩
  | selectMode mode =>
    obtain ⟨adjustment, result, sound'⟩ := sound.selectMode_ok admissible
    have selected := selected_of_selectMode result
    exact ⟨adjustment.bank, by rw [ControlBank.change, result]; rfl, sound', selected.mode_eq,
      selected.offers⟩

theorem Sound.changeAll_ok (sound : bank.Sound) {changes : List ControlChange}
    (admissible : ∀ change ∈ changes, change.Admissible) :
    ∃ bank', bank.changeAll changes = .ok bank' ∧ bank'.Sound ∧
      bank'.mode = changes.foldl ControlChange.mode bank.mode ∧
      bank'.digitalGain.isSome = bank.digitalGain.isSome := by
  induction changes generalizing bank with
  | nil => exact ⟨bank, rfl, sound, rfl, rfl⟩
  | cons change rest ih =>
    obtain ⟨bank₁, here, sound₁, mode₁, offers₁⟩ :=
      sound.change_ok (admissible change List.mem_cons_self)
    obtain ⟨bank', behind, sound', mode', offers'⟩ :=
      ih sound₁ fun later member => admissible later (List.mem_cons_of_mem _ member)
    refine ⟨bank', ?_, sound', ?_, offers'.trans offers₁⟩
    · rw [changeAll, here]
      exact behind
    · rw [mode', mode₁, List.foldl_cons]

/-- A history goes on from the bank it leads to. -/
theorem changeAll_concat {bank' : ControlBank} {changes : List ControlChange}
    (result : bank.changeAll changes = .ok bank') (change : ControlChange) :
    bank.changeAll (changes ++ [change]) = bank'.change change := by
  induction changes generalizing bank with
  | nil =>
    obtain rfl : bank = bank' := Except.ok.inj result
    rw [List.nil_append, changeAll]
    cases bank.change change <;> rfl
  | cons first rest ih =>
    obtain ⟨bank₁, here, behind⟩ := Checked.bind_eq_ok_iff.1 result
    rw [List.cons_append, changeAll, here]
    exact ih behind

/-! ## §3 What a history leads to -/

/-- Every setting lies in its range, and the ranges are those of the mode. -/
structure InOrder (bank : ControlBank) : Prop where
  inRange : ∀ id setting, (id, setting) ∈ bank.settings →
    (setting.minimum ≤ setting.value ∧ setting.value ≤ setting.maximum) ∧
      setting.minimum ≤ setting.default ∧ setting.default ≤ setting.maximum
  verticalBlank :
    bank.verticalBlank.minimum = bank.mode.verticalTotal.toNat - bank.mode.height.toNat ∧
    bank.verticalBlank.maximum = verticalTotalMax.toNat - bank.mode.height.toNat
  exposure : bank.exposure.minimum = 1 ∧
    bank.exposure.maximum = bank.mode.height.toNat + bank.verticalBlank.value - 4
  horizontalBlank :
    bank.horizontalBlank.minimum = bank.mode.horizontalTotal.toNat - bank.mode.width.toNat ∧
    bank.horizontalBlank.maximum = bank.mode.horizontalTotal.toNat - bank.mode.width.toNat ∧
    bank.horizontalBlank.value = bank.mode.horizontalTotal.toNat - bank.mode.width.toNat
  linkFrequency : bank.linkFrequency.value = bank.mode.linkFrequencyIndex
  pixelRate : ∃ rate : Nat, bank.mode.pixelRate = .ok rate ∧ bank.pixelRate.value = rate

theorem setting?_of_mem_settings {id : ControlId} {setting : Setting}
    (member : (id, setting) ∈ bank.settings) : bank.setting? id = some setting := by
  obtain ⟨_, -, found⟩ := List.mem_filterMap.1 member
  obtain ⟨_, present, same⟩ := Option.map_eq_some_iff.1 found
  cases same
  exact present

theorem Sound.inOrder (sound : bank.Sound) : bank.InOrder where
  inRange := by
    intro id setting member
    have spans := sound.spans id setting (setting?_of_mem_settings member)
    rw [spans.minimum, spans.maximum]
    exact ⟨spans.value, spans.default⟩
  verticalBlank := by
    have spans := sound.spans .verticalBlank _ rfl
    exact ⟨spans.minimum, spans.maximum⟩
  exposure := by
    have spans := sound.spans .exposure _ rfl
    exact ⟨spans.minimum, spans.maximum⟩
  horizontalBlank := by
    obtain ⟨minimum, maximum, -, low, high⟩ := sound.spans .horizontalBlank _ rfl
    exact ⟨minimum, maximum, Int.le_antisymm high low⟩
  linkFrequency := sound.ranged.linkFrequency
  pixelRate := sound.ranged.pixelRate

/-- The controls of a bank, in declaration order: all of them, or all but the digital gain. -/
def controlsOffered (digitalGain : Bool) : List ControlId :=
  ControlId.all.filter fun id => digitalGain || id != .digitalGain

theorem ids_settings (bank : ControlBank) :
    bank.settings.map Prod.fst = controlsOffered bank.digitalGain.isSome := by
  obtain ⟨_, _, _, _, _, _, _, digitalGain, _⟩ := bank
  cases digitalGain <;> rfl

theorem offers_of_ofMode {mode : Mode} {digitalGain : Bool}
    (result : ofMode mode digitalGain = .ok bank) : bank.digitalGain.isSome = digitalGain := by
  obtain ⟨_, -, result⟩ := Checked.bind_eq_ok_iff.1 result
  obtain ⟨_, -, result⟩ := Checked.bind_eq_ok_iff.1 result
  obtain ⟨_, -, result⟩ := Checked.bind_eq_ok_iff.1 result
  obtain ⟨_, -, result⟩ := Checked.bind_eq_ok_iff.1 result
  obtain ⟨_, -, result⟩ := Checked.bind_eq_ok_iff.1 result
  cases result
  cases digitalGain <;> rfl

/-- Every history over well-formed modes has a result: a bank of the mode selected last, in order,
with the controls it had from the beginning. -/
theorem history_ok {mode : Mode} (wellFormed : mode.WellFormed) (digitalGain : Bool)
    {changes : List ControlChange} (admissible : ∀ change ∈ changes, change.Admissible) :
    ∃ bank, history mode digitalGain changes = .ok bank ∧
      bank.mode = changes.foldl ControlChange.mode mode ∧ bank.InOrder ∧
      bank.settings.map Prod.fst = controlsOffered digitalGain := by
  obtain ⟨first, created, mode₁, sound₁⟩ := ofMode_ok wellFormed digitalGain
  obtain ⟨bank, changed, sound, mode', offers⟩ := sound₁.changeAll_ok admissible
  refine ⟨bank, ?_, by rw [mode', mode₁], sound.inOrder, ?_⟩
  · rw [history, created]
    exact changed
  · rw [ids_settings, offers, offers_of_ofMode created]

/-- A long exposure is set in a long frame, binned frames are selected, the frame is shortened below
its minimum, and a menu is set to a position it does not have. -/
def restlessHistory : List ControlChange :=
  [.set .verticalBlank 60000, .set .exposure 60000, .selectMode Catalog.binned,
    .set .verticalBlank (-1), .setRaw ControlId.testPattern.cid 4, .selectMode Catalog.fullFrame]

/-- The restless history ends in full frames. -/
theorem history_restless :
    (∀ change ∈ restlessHistory, change.Admissible) ∧
      ∃ bank, history Catalog.fullFrame true restlessHistory = .ok bank ∧
        bank.mode = Catalog.fullFrame ∧ bank.InOrder ∧
        bank.settings.map Prod.fst = ControlId.all := by
  have full : Catalog.fullFrame.WellFormed := Catalog.wellFormed (by simp [Catalog.modes])
  have binned : Catalog.binned.WellFormed := Catalog.wellFormed (by simp [Catalog.modes])
  have admissible : ∀ change ∈ restlessHistory, change.Admissible := by
    simp [restlessHistory, ControlChange.Admissible, full, binned]
  obtain ⟨bank, result, mode, inOrder, offered⟩ := history_ok full true admissible
  exact ⟨admissible, bank, result, mode, inOrder, offered⟩

end ControlBank

end ImageSensor
