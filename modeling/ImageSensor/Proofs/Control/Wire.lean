import ImageSensor.Proofs.Control.Replay

/-!
# Control Values on the Wire

The value of a control passes through a word, a sum or a menu code, and one or two bytes on its way
to the sensor. Nothing is lost on that way: every write that a bank hands out fits into the bytes of
its register, and the bytes give the value back to whoever knows the control and the height of the
frame.

## Main statements

- `ControlId.readBack?`: the value that the bytes of a frame stand for.
- `Conveys`: a write that is sent whole, and the value it gives back.
- `Sound.conveys`: every register write of a bank in order is such a write.
- `values_conveyed`: so are all writes along every history, whatever hands them out.
-/

namespace ImageSensor

/-! ## §1 Reading bytes back -/

/-- Value of a control whose register holds `n`, for frames of a given height. -/
def ControlId.decode? (height : UInt32) (n : Nat) : ControlId → Option Int
  | linkFrequency | pixelRate | horizontalBlank => none
  | verticalBlank => some (n - height.toNat)
  | exposure | analogGain | digitalGain => some n
  | testPattern => some (if n = 0 then 0 else n - 0x80 + 1)

/-- Value of a control, from the value bytes of a frame that holds it. -/
def ControlId.readBack? (id : ControlId) (height : UInt32) (bytes : List UInt8) : Option Int :=
  id.decode? height (ofBigEndian bytes)

/-- The code of a test pattern is a byte, and tells the patterns apart. -/
theorem decode?_testPatternRegister {v : Int} (low : 0 ≤ v) (high : v ≤ 3) (height : UInt32) :
    (testPatternRegister (UInt32.ofInt v)).toNat < byteRange 1 ∧
      ControlId.testPattern.decode? height (testPatternRegister (UInt32.ofInt v)).toNat =
        some v := by
  have cases : v = 0 ∨ v = 1 ∨ v = 2 ∨ v = 3 := by omega
  rcases cases with rfl | rfl | rfl | rfl <;> exact ⟨by decide, rfl⟩

namespace ControlBank

variable {bank : ControlBank} {adjustment : Adjustment} {id : ControlId} {write : RegisterWrite}

/-! ## §2 Writes that convey a value -/

/-- The write of a control is sent whole, and gives the value of the control back. -/
structure Conveys (bank : ControlBank) (id : ControlId) (write : RegisterWrite) : Prop where
  own : bank.registerWrite? id = .ok (some write)
  width : 1 ≤ write.width.toNat ∧ write.width.toNat ≤ 4
  fits : write.value.toNat < byteRange write.width.toNat
  /-- Sending the write is one transaction, with the register address in front of the value. -/
  sent : ∀ (bus : Bus) events outcome, Action.Runs (bus.write write) events (.ok outcome) →
    ∃ answer : Except Cause Unit,
      events = [⟨.notify (.writing write), ()⟩, ⟨.busWrite bus.address write.frame, answer⟩] ∧
        outcome = answer.mapError .transport
  whole : ofBigEndian (write.frame.take 2) = write.address.toNat ∧
    ofBigEndian (write.frame.drop 2) = write.value.toNat
  recovered : ∃ v, bank.value? id = some v ∧
    id.readBack? bank.mode.height (write.frame.drop 2) = some v

/-- The controls whose number is written as it is have ranges of two bytes. -/
theorem Ranged.two_bytes (ranged : bank.Ranged)
    (plain : id = .exposure ∨ id = .analogGain ∨ id = .digitalGain) :
    0 ≤ bank.minimum id ∧ bank.maximum id < byteRange 2 := by
  obtain ⟨-, few⟩ := ranged.lines_bounds
  have most : verticalTotalMax.toNat = 0xfff7 := rfl
  have range : byteRange 2 = 0x10000 := rfl
  have margin : exposureMargin = 4 := rfl
  rcases plain with rfl | rfl | rfl
  · simp only [minimum, maximum, exposureMin]
    omega
  · simp only [minimum, maximum]
    decide
  · simp only [minimum, maximum]
    decide

/-- A number that is written as it is survives the conversion to a word. -/
theorem Sound.decode?_plain (sound : bank.Sound)
    (plain : id = .exposure ∨ id = .analogGain ∨ id = .digitalGain)
    (own : bank.registerWrite? id = .ok (some write)) :
    write.value.toNat < byteRange write.width.toNat ∧
      ∃ v, bank.value? id = some v ∧
        id.decode? bank.mode.height write.value.toNat = some v := by
  cases present : bank.setting? id with
  | none =>
    simp only [registerWrite?, value?, present] at own
    cases own
  | some setting =>
    obtain ⟨above, below⟩ := (sound.spans id setting present).value
    obtain ⟨low, high⟩ := sound.ranged.two_bytes plain
    have range : byteRange 2 = 0x10000 := rfl
    have same := @toNat_ofInt_of_lt setting.value (by omega) (by omega)
    have fits : (UInt32.ofInt setting.value).toNat < byteRange 2 := by omega
    have value : bank.value? id = some setting.value := by
      rw [value?, present]
      rfl
    rcases plain with rfl | rfl | rfl <;>
    · simp only [registerWrite?, value] at own
      cases own
      exact ⟨fits, _, value, congrArg some same⟩

/-- What is written fits into the register, and stands for the value of the control. -/
theorem Sound.decode?_write (sound : bank.Sound)
    (own : bank.registerWrite? id = .ok (some write)) :
    write.value.toNat < byteRange write.width.toNat ∧
      ∃ v, bank.value? id = some v ∧
        id.decode? bank.mode.height write.value.toNat = some v := by
  cases id with
  | linkFrequency | pixelRate | horizontalBlank => cases own
  | verticalBlank =>
    -- the blank is written as the lines of the frame, and the height is taken off again
    obtain ⟨-, few⟩ := sound.ranged.lines_bounds
    have most : verticalTotalMax.toNat = 0xfff7 := rfl
    have range : byteRange 2 = 0x10000 := rfl
    obtain ⟨total, framing, same⟩ := sound.ranged.total_write
    cases own.symm.trans framing
    refine ⟨?_, _, rfl, congrArg some ?_⟩
    · show total.toNat < byteRange 2
      omega
    · show (total.toNat : Int) - bank.mode.height.toNat = bank.verticalBlank.value
      rw [same, lines]
      omega
  | exposure | analogGain | digitalGain => exact sound.decode?_plain (by simp) own
  | testPattern =>
    obtain ⟨low, high⟩ := (sound.spans .testPattern _ rfl).value
    obtain ⟨fits, decoded⟩ := decode?_testPatternRegister low high bank.mode.height
    cases own
    exact ⟨fits, _, rfl, decoded⟩

/-- Every register write of a bank in order conveys the value of its control. -/
theorem Sound.conveys (sound : bank.Sound) (own : bank.registerWrite? id = .ok (some write)) :
    bank.Conveys id write := by
  obtain ⟨fits, v, value, decoded⟩ := sound.decode?_write own
  have valid := validWidth_of_registerWrite? own
  have whole : ofBigEndian (write.frame.drop 2) = write.value.toNat := by
    rw [write.ofBigEndian_drop_frame, Nat.mod_eq_of_lt fits]
  refine ⟨own, validWidth_iff.1 valid, fits, ?_, ⟨write.ofBigEndian_take_frame, whole⟩,
    v, value, ?_⟩
  · intro bus events outcome run
    exact Bus.runs_write_ok valid run
  · rw [ControlId.readBack?, whole]
    exact decoded

theorem Sound.conveys_of_writesOf (sound : bank.Sound) {ids : List ControlId}
    {writes : List RegisterWrite} (result : bank.writesOf ids = .ok writes) :
    ∀ write ∈ writes, ∃ id, bank.Conveys id write := by
  intro write member
  obtain ⟨id, -, own⟩ := exists_of_mem_writesOf result member
  exact ⟨id, sound.conveys own⟩

/-- What a change writes are values of the changed bank. -/
theorem Reacted.conveys (reacted : bank.Reacted adjustment) (sound' : adjustment.bank.Sound) :
    ∀ write ∈ adjustment.writes, ∃ id, adjustment.bank.Conveys id write := by
  cases reacted with
  | refused => exact nofun
  | set set =>
    obtain ⟨ids, written⟩ := set.exists_writesOf
    exact sound'.conveys_of_writesOf written
  | selected selected =>
    obtain ⟨ids, written⟩ := selected.exists_writesOf
    exact sound'.conveys_of_writesOf written

/-! ## §3 Along a history -/

/-- Along every history over well-formed modes, all writes convey the value of a control: those of
single controls, those of the replay, and those that the next change hands out. -/
theorem values_conveyed {mode : Mode} (wellFormed : mode.WellFormed) (digitalGain : Bool)
    {changes : List ControlChange} (admissible : ∀ change ∈ changes, change.Admissible) :
    ∃ bank, history mode digitalGain changes = .ok bank ∧
      (∀ id, ∃ write?, bank.registerWrite? id = .ok write? ∧
        ∀ write, write? = some write → bank.Conveys id write) ∧
      (∃ writes, bank.replay = .ok writes ∧ ∀ write ∈ writes, ∃ id, bank.Conveys id write) ∧
      ∀ change : ControlChange, change.Admissible →
        ∃ adjustment, bank.react change = .ok adjustment ∧
          ∀ write ∈ adjustment.writes, ∃ id, adjustment.bank.Conveys id write := by
  obtain ⟨first, created, -, sound₁⟩ := ofMode_ok wellFormed digitalGain
  obtain ⟨bank, changed, sound, -, -⟩ := sound₁.changeAll_ok admissible
  refine ⟨bank, ?_, ?_, ?_, ?_⟩
  · rw [history, created]
    exact changed
  · intro id
    obtain ⟨write?, own⟩ := sound.ranged.registerWrite?_ok id
    refine ⟨write?, own, ?_⟩
    rintro write rfl
    exact sound.conveys own
  · obtain ⟨writes, replay⟩ := sound.replay_ok
    exact ⟨writes, replay, sound.conveys_of_writesOf replay⟩
  · intro change admissible'
    obtain ⟨adjustment, reacted, sound', -⟩ := sound.react_ok admissible'
    exact ⟨adjustment, reacted, (reacted_of_react reacted).conveys sound'⟩

/-- The last test pattern is shown in the longest binned frames, which are exposed for as long as
they can be. -/
def longHistory : List ControlChange :=
  [.selectMode Catalog.binned, .set .verticalBlank 0x10000, .set .exposure 0x10000,
    .setRaw ControlId.testPattern.cid 3]

/-- The long history, replayed, and followed by a change back to full frames. -/
theorem conveyed_long :
    ∃ bank, history Catalog.fullFrame true longHistory = .ok bank ∧
      (∃ writes, bank.replay = .ok writes ∧ ∀ write ∈ writes, ∃ id, bank.Conveys id write) ∧
      ∃ adjustment, bank.react (.selectMode Catalog.fullFrame) = .ok adjustment ∧
        ∀ write ∈ adjustment.writes, ∃ id, adjustment.bank.Conveys id write := by
  have full : Catalog.fullFrame.WellFormed := Catalog.wellFormed (by simp [Catalog.modes])
  have binned : Catalog.binned.WellFormed := Catalog.wellFormed (by simp [Catalog.modes])
  have admissible : ∀ change ∈ longHistory, change.Admissible := by
    simp [longHistory, ControlChange.Admissible, binned]
  obtain ⟨bank, result, -, replayed, reacts⟩ := values_conveyed full true admissible
  exact ⟨bank, result, replayed, reacts (.selectMode Catalog.fullFrame) full⟩

end ControlBank

end ImageSensor
