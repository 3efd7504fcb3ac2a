import Mathlib.Data.List.Forall2
import ImageSensor.Proofs.Control.History
import ImageSensor.Proofs.Control.Registers

/-!
# Updates Agree with the Replay

There are two ways to bring the registers of a sensor up to date. Every change of the controls hands
out the writes it takes, which are few; the replay writes all controls there are. A sensor that
received the writes of every change, one after the other, has stored what the replay would store,
byte for byte.

A change may write too little only where a register already holds its value, so the induction
carries that the memory holds all controls of the bank.

## Main statements

- `Sound.react_ok`: what the writes of one change do to a memory that is up to date.
- `Sound.reactAll_ok`: what those of a whole history do.
- `eachOnce_of_replay`: the replay writes every writable control once, in declaration order.
- `replay_of_history`: the writes of a history and the replay after it store the same.
-/

namespace ImageSensor

namespace ControlBank

variable {bank : ControlBank} {adjustment : Adjustment}

/-! ## §1 Changes with their writes -/

/-- What a request to set a control comes to: a refused one changes nothing and writes nothing. -/
def accept (bank : ControlBank) : Except ControlError Adjustment → Adjustment
  | .error _ => ⟨bank, []⟩
  | .ok adjustment => adjustment

/-- Carries out a change, with the writes it causes. -/
def react (bank : ControlBank) : ControlChange → Checked Adjustment
  | .set id v => return bank.accept (← bank.set id v)
  | .setRaw cid v => return bank.accept (← bank.setRaw cid v)
  | .selectMode mode => bank.selectMode mode

/-- Carries out several changes, with all the writes they cause, in order. -/
def reactAll (bank : ControlBank) : List ControlChange → Checked Adjustment
  | [] => return ⟨bank, []⟩
  | change :: rest => do
    let first ← bank.react change
    let later ← first.bank.reactAll rest
    return ⟨later.bank, first.writes ++ later.writes⟩

theorem bank_accept (bank : ControlBank) (outcome : Except ControlError Adjustment) :
    (bank.accept outcome).bank = bank.settle outcome := by
  cases outcome <;> rfl

/-- The writes apart, reacting to a change is carrying it out. -/
theorem change_eq_ok_iff {change : ControlChange} {bank' : ControlBank} :
    bank.change change = .ok bank' ↔
      ∃ adjustment, bank.react change = .ok adjustment ∧ adjustment.bank = bank' := by
  cases change with
  | set id v =>
    simp only [ControlBank.change, react]
    cases bank.set id v <;> simp [pure, Except.pure, bind, Except.bind, bank_accept]
  | setRaw cid v =>
    simp only [ControlBank.change, react]
    cases bank.setRaw cid v <;> simp [pure, Except.pure, bind, Except.bind, bank_accept]
  | selectMode mode =>
    simp only [ControlBank.change, react]
    cases bank.selectMode mode <;> simp [pure, Except.pure, bind, Except.bind]

theorem changeAll_of_reactAll {changes : List ControlChange}
    (result : bank.reactAll changes = .ok adjustment) :
    bank.changeAll changes = .ok adjustment.bank := by
  induction changes generalizing bank adjustment with
  | nil =>
    cases result
    rfl
  | cons change rest ih =>
    obtain ⟨first, here, result⟩ := Checked.bind_eq_ok_iff.1 result
    obtain ⟨later, behind, result⟩ := Checked.bind_eq_ok_iff.1 result
    cases result
    have changed : bank.change change = .ok first.bank := change_eq_ok_iff.2 ⟨first, here, rfl⟩
    have carried : first.bank.changeAll rest = .ok later.bank := ih behind
    rw [changeAll, changed]
    exact carried

/-- How a change can go. -/
inductive Reacted (bank : ControlBank) : Adjustment → Prop where
  | refused : Reacted bank ⟨bank, []⟩
  | set {id : ControlId} {adjustment : Adjustment} (set : bank.WasSet id adjustment) :
      Reacted bank adjustment
  | selected {mode : Mode} {adjustment : Adjustment} (selected : bank.Selected mode adjustment) :
      Reacted bank adjustment

theorem reacted_of_react {change : ControlChange}
    (result : bank.react change = .ok adjustment) : bank.Reacted adjustment := by
  cases change with
  | set id v =>
    obtain ⟨outcome, requested, result⟩ := Checked.bind_eq_ok_iff.1 result
    cases result
    cases outcome with
    | error e => exact .refused
    | ok adjustment => exact .set (wasSet_of_set requested)
  | setRaw cid v =>
    obtain ⟨outcome, requested, result⟩ := Checked.bind_eq_ok_iff.1 result
    cases result
    cases outcome with
    | error e => exact .refused
    | ok adjustment =>
      obtain ⟨id, set⟩ := wasSet_of_setRaw requested
      exact .set set
  | selectMode mode => exact .selected (selected_of_selectMode result)

/-! ## §2 Where a change writes -/

/-- The write is to the register of a control that is offered. -/
def Reaches (digitalGain : Bool) (write : RegisterWrite) : Prop :=
  ∃ id ∈ controlsOffered digitalGain, id.register? = some (write.address, write.width)

/-- The address is one of those that the registers of the controls on offer take up. -/
def Occupied (digitalGain : Bool) (address : Nat) : Prop :=
  ∃ id ∈ controlsOffered digitalGain, ∃ register width, id.register? = some (register, width) ∧
    register.toNat ≤ address ∧ address < register.toNat + width.toNat

theorem mem_controlsOffered {id : ControlId} :
    id ∈ controlsOffered bank.digitalGain.isSome ↔ (bank.setting? id).isSome = true := by
  cases id with
  | digitalGain => simp [controlsOffered, ControlId.mem_all, setting?]
  | _ => simp [controlsOffered, ControlId.mem_all, setting?]

theorem reaches_of_registerWrite? {id : ControlId} {write : RegisterWrite}
    (result : bank.registerWrite? id = .ok (some write)) :
    Reaches bank.digitalGain.isSome write := by
  refine ⟨id, mem_controlsOffered.2 ?_, register?_of_registerWrite? result⟩
  -- a control that is absent has no value, hence no write
  cases present : bank.setting? id with
  | none => simp [registerWrite?, value?, present] at result
  | some setting => rfl

theorem reaches_of_writesOf {ids : List ControlId} {writes : List RegisterWrite}
    (result : bank.writesOf ids = .ok writes) :
    ∀ write ∈ writes, Reaches bank.digitalGain.isSome write := by
  intro write member
  obtain ⟨id, -, written⟩ := exists_of_mem_writesOf result member
  exact reaches_of_registerWrite? written

theorem Reacted.reaches (reacted : bank.Reacted adjustment) :
    ∀ write ∈ adjustment.writes, Reaches adjustment.bank.digitalGain.isSome write := by
  cases reacted with
  | refused => exact nofun
  | set set =>
    obtain ⟨ids, written⟩ := set.exists_writesOf
    exact reaches_of_writesOf written
  | selected selected =>
    obtain ⟨ids, written⟩ := selected.exists_writesOf
    exact reaches_of_writesOf written

/-- Other addresses keep what they hold. -/
theorem storeAll_of_not_occupied {digitalGain : Bool} {writes : List RegisterWrite}
    {memory : Memory} {address : Nat} (free : ¬ Occupied digitalGain address)
    (reach : ∀ write ∈ writes, Reaches digitalGain write) :
    memory.storeAll (writes.map RegisterWrite.frame) address = memory address := by
  refine Memory.storeAll_untouched fun frame member => ?_
  obtain ⟨write, among, rfl⟩ := List.mem_map.1 member
  obtain ⟨id, offered, register⟩ := reach write among
  refine RegisterWrite.byteAt?_eq_none ?_
  by_contra inside
  exact free ⟨id, offered, _, _, register, by omega, by omega⟩

/-! ## §3 One change, and a whole history -/

/-- The writes lead from a memory with the controls of the bank to one with those of the changed
bank, and write nowhere but to the controls that both of them offer. -/
structure Updates (bank : ControlBank) (adjustment : Adjustment) : Prop where
  offers : adjustment.bank.digitalGain.isSome = bank.digitalGain.isSome
  stored : ∀ memory, bank.StoredIn memory →
    adjustment.bank.StoredIn (memory.storeAll (adjustment.writes.map RegisterWrite.frame))
  reaches : ∀ write ∈ adjustment.writes, Reaches bank.digitalGain.isSome write

theorem Updates.trans {later : Adjustment} (one : bank.Updates adjustment)
    (two : adjustment.bank.Updates later) :
    bank.Updates ⟨later.bank, adjustment.writes ++ later.writes⟩ where
  offers := two.offers.trans one.offers
  stored := by
    intro memory stored
    rw [List.map_append, Memory.storeAll_append]
    exact two.stored _ (one.stored memory stored)
  reaches := by
    have second := two.reaches
    rw [one.offers] at second
    exact List.forall_mem_append.2 ⟨one.reaches, second⟩

/-- One change of a bank in order brings a memory up to date that was so before. -/
theorem Sound.react_ok (sound : bank.Sound) {change : ControlChange}
    (admissible : change.Admissible) :
    ∃ adjustment, bank.react change = .ok adjustment ∧ adjustment.bank.Sound ∧
      bank.Updates adjustment := by
  obtain ⟨bank', changed, sound', -, offers⟩ := sound.change_ok admissible
  obtain ⟨adjustment, result, rfl⟩ := change_eq_ok_iff.1 changed
  have reacted := reacted_of_react result
  refine ⟨adjustment, result, sound', offers, ?_, offers ▸ reacted.reaches⟩
  cases reacted with
  | refused => exact fun memory stored => stored
  | set set => exact (set.leads sound sound').stored
  | selected selected => exact (selected.leads sound sound').stored

theorem Sound.reactAll_ok (sound : bank.Sound) {changes : List ControlChange}
    (admissible : ∀ change ∈ changes, change.Admissible) :
    ∃ adjustment, bank.reactAll changes = .ok adjustment ∧ adjustment.bank.Sound ∧
      bank.Updates adjustment := by
  -- every change starts from a memory that the changes before it have brought up to date
  induction changes generalizing bank with
  | nil => exact ⟨⟨bank, []⟩, rfl, sound, rfl, fun _ stored => stored, nofun⟩
  | cons change rest ih =>
    obtain ⟨first, here, sound₁, updates⟩ := sound.react_ok (admissible change List.mem_cons_self)
    obtain ⟨later, behind, sound', updates'⟩ :=
      ih sound₁ fun other member => admissible other (List.mem_cons_of_mem _ member)
    refine ⟨⟨later.bank, first.writes ++ later.writes⟩, ?_, sound', updates.trans updates'⟩
    simp only [reactAll, here, behind, bind, Except.bind]
    rfl

/-! ## §4 Memories with the same controls -/

/-- Two memories that hold the controls of a bank agree wherever a control is. -/
theorem StoredIn.agree {memory memory' : Memory} (stored : bank.StoredIn memory)
    (stored' : bank.StoredIn memory') (ranged : bank.Ranged) {address : Nat}
    (occupied : Occupied bank.digitalGain.isSome address) : memory address = memory' address := by
  obtain ⟨id, offered, register, width, located, low, high⟩ := occupied
  obtain ⟨setting, present⟩ := Option.isSome_iff_exists.1 (mem_controlsOffered.1 offered)
  have writable : id.isReadOnly = false := by
    cases id with
    | linkFrequency | pixelRate | horizontalBlank => cases located
    | _ => rfl
  obtain ⟨write, own⟩ := ranged.exists_write writable present
  obtain ⟨rfl, rfl⟩ : write.address = register ∧ write.width = width := by
    simpa using (register?_of_registerWrite? own).symm.trans located
  -- both hold the same byte of the write of this control
  obtain ⟨i, rfl⟩ := Nat.exists_eq_add_of_le low
  have within : i < write.width.toNat := by omega
  exact (stored id write own i within).trans (stored' id write own i within).symm

/-- Memories that hold the controls of a bank and agree outside of them are equal. -/
theorem StoredIn.eq {memory memory' : Memory} (stored : bank.StoredIn memory)
    (stored' : bank.StoredIn memory') (ranged : bank.Ranged)
    (outside : ∀ address, ¬ Occupied bank.digitalGain.isSome address →
      memory address = memory' address) : memory = memory' := by
  funext address
  by_cases occupied : Occupied bank.digitalGain.isSome address
  · exact stored.agree stored' ranged occupied
  · exact outside address occupied

/-- The replay changes nothing in a memory that is up to date. -/
theorem StoredIn.storeAll_replay {memory : Memory} (stored : bank.StoredIn memory)
    (ranged : bank.Ranged) {restore : List RegisterWrite} (replay : bank.replay = .ok restore) :
    memory.storeAll (restore.map RegisterWrite.frame) = memory :=
  (storedIn_of_replay replay memory).eq stored ranged fun _ free =>
    storeAll_of_not_occupied free (reaches_of_writesOf replay)

/-- The writes of some changes store what the replay after them stores. -/
theorem Updates.storeAll_replay {memory : Memory} (updates : bank.Updates adjustment)
    (stored : bank.StoredIn memory) (sound' : adjustment.bank.Sound) {restore : List RegisterWrite}
    (replay : adjustment.bank.replay = .ok restore) :
    memory.storeAll (restore.map RegisterWrite.frame) =
      memory.storeAll (adjustment.writes.map RegisterWrite.frame) := by
  refine (storedIn_of_replay replay memory).eq (updates.stored memory stored) sound'.ranged ?_
  intro address free
  have reaches := updates.reaches
  rw [← updates.offers] at reaches
  rw [storeAll_of_not_occupied free (reaches_of_writesOf replay),
    storeAll_of_not_occupied free reaches]

/-! ## §5 What a replay writes -/

/-- The control is present and can be set. -/
def isWritable (bank : ControlBank) (id : ControlId) : Bool :=
  !id.isReadOnly && (bank.setting? id).isSome

/-- The controls that are present and can be set, in declaration order. -/
def writable (bank : ControlBank) : List ControlId :=
  ControlId.all.filter bank.isWritable

/-- A control that is absent or read-only is not written. -/
theorem registerWrite?_eq_none {id : ControlId} (unwritable : bank.isWritable id = false) :
    bank.registerWrite? id = .ok none := by
  cases present : bank.setting? id with
  | none => simp only [registerWrite?, value?, present, Option.map_none]
  | some setting =>
    have readOnly : id.isReadOnly = true := by simpa [isWritable, present] using unwritable
    simp only [registerWrite?, value?, present, Option.map_some]
    cases id with
    | linkFrequency | pixelRate | horizontalBlank => rfl
    | _ => cases readOnly

theorem eachOnce_of_writesOf (ranged : bank.Ranged) {ids : List ControlId}
    {writes : List RegisterWrite} (result : bank.writesOf ids = .ok writes) :
    List.Forall₂ (fun id write => bank.registerWrite? id = .ok (some write))
      (ids.filter bank.isWritable) writes := by
  induction ids generalizing writes with
  | nil =>
    cases result
    exact .nil
  | cons id rest ih =>
    obtain ⟨here, first, result⟩ := Checked.bind_eq_ok_iff.1 result
    obtain ⟨later, behind, result⟩ := Checked.bind_eq_ok_iff.1 result
    cases result
    cases settable : bank.isWritable id with
    | false =>
      cases Except.ok.inj (first.symm.trans (registerWrite?_eq_none settable))
      rw [List.filter_cons_of_neg (by simp [settable])]
      exact ih behind
    | true =>
      obtain ⟨writable, present⟩ := Bool.and_eq_true_iff.1 settable
      obtain ⟨setting, present⟩ := Option.isSome_iff_exists.1 present
      obtain ⟨write, own⟩ := ranged.exists_write (by simpa using writable) present
      cases Except.ok.inj (first.symm.trans own)
      rw [List.filter_cons_of_pos settable]
      exact .cons own (ih behind)

/-- The replay writes every control that is present and can be set, each once. -/
theorem eachOnce_of_replay (ranged : bank.Ranged) {restore : List RegisterWrite}
    (replay : bank.replay = .ok restore) :
    List.Forall₂ (fun id write => bank.registerWrite? id = .ok (some write) ∧
      id.register? = some (write.address, write.width)) bank.writable restore :=
  (eachOnce_of_writesOf ranged replay).imp fun _ _ own => ⟨own, register?_of_registerWrite? own⟩

theorem writable_eq (bank : ControlBank) :
    bank.writable = [.verticalBlank, .exposure, .analogGain] ++
      (if bank.digitalGain.isSome then [.digitalGain] else []) ++ [.testPattern] := by
  obtain ⟨_, _, _, _, _, _, _, digitalGain, _⟩ := bank
  cases digitalGain <;> rfl

/-! ## §6 Updates and replay -/

/-- A memory starts with the controls of a well-formed mode and receives the writes of every change
of a history. It is then what the replay of the last bank makes of the memory it started as, and the
replay changes nothing in it any more. The replay consists of one write for each control that is
present and can be set, in declaration order. -/
theorem replay_of_history {mode : Mode} (wellFormed : mode.WellFormed) (digitalGain : Bool)
    {changes : List ControlChange} (admissible : ∀ change ∈ changes, change.Admissible)
    (memory : Memory) :
    ∃ first initial adjustment restore,
      ofMode mode digitalGain = .ok first ∧ first.replay = .ok initial ∧
      first.reactAll changes = .ok adjustment ∧ first.changeAll changes = .ok adjustment.bank ∧
      adjustment.bank.replay = .ok restore ∧
      (∀ started updated,
        started = memory.storeAll (initial.map RegisterWrite.frame) →
        updated = started.storeAll (adjustment.writes.map RegisterWrite.frame) →
        started.storeAll (restore.map RegisterWrite.frame) = updated ∧
          updated.storeAll (restore.map RegisterWrite.frame) = updated) ∧
      adjustment.bank.writable = [.verticalBlank, .exposure, .analogGain] ++
        (if digitalGain then [.digitalGain] else []) ++ [.testPattern] ∧
      List.Forall₂ (fun id write => adjustment.bank.registerWrite? id = .ok (some write) ∧
        id.register? = some (write.address, write.width)) adjustment.bank.writable restore := by
  obtain ⟨first, created, -, sound⟩ := ofMode_ok wellFormed digitalGain
  obtain ⟨initial, replayed⟩ := sound.replay_ok
  obtain ⟨adjustment, reacted, sound', updates⟩ := sound.reactAll_ok admissible
  obtain ⟨restore, replay⟩ := sound'.replay_ok
  refine ⟨first, initial, adjustment, restore, created, replayed, reacted,
    changeAll_of_reactAll reacted, replay, ?_, ?_, eachOnce_of_replay sound'.ranged replay⟩
  · rintro started updated rfl rfl
    have stored := storedIn_of_replay replayed memory
    exact ⟨updates.storeAll_replay stored sound' replay,
      (updates.stored _ stored).storeAll_replay sound'.ranged replay⟩
  · rw [writable_eq, updates.offers, offers_of_ofMode created]

/-- A long exposure is cut short along with its frame, and two modes are selected one after the
other; a pattern that does not exist and a control that is read-only are refused in between. -/
def hastyHistory : List ControlChange :=
  [.set .verticalBlank 9000, .set .exposure 12000, .setRaw ControlId.verticalBlank.cid 200,
    .selectMode Catalog.binned, .set .testPattern 9, .setRaw ControlId.pixelRate.cid 1,
    .set .digitalGain 0x300, .selectMode Catalog.fullFrame]

/-- The hasty history, on a sensor that has stored nothing yet. -/
theorem replay_hasty :
    (∀ change ∈ hastyHistory, change.Admissible) ∧
      ∃ first initial adjustment restore,
        ofMode Catalog.fullFrame true = .ok first ∧ first.replay = .ok initial ∧
        first.reactAll hastyHistory = .ok adjustment ∧ adjustment.bank.replay = .ok restore ∧
        (Memory.blank.storeAll (initial.map RegisterWrite.frame)).storeAll
            (restore.map RegisterWrite.frame) =
          (Memory.blank.storeAll (initial.map RegisterWrite.frame)).storeAll
            (adjustment.writes.map RegisterWrite.frame) ∧
        adjustment.bank.writable =
          [.verticalBlank, .exposure, .analogGain, .digitalGain, .testPattern] := by
  have full : Catalog.fullFrame.WellFormed := Catalog.wellFormed (by simp [Catalog.modes])
  have binned : Catalog.binned.WellFormed := Catalog.wellFormed (by simp [Catalog.modes])
  have admissible : ∀ change ∈ hastyHistory, change.Admissible := by
    simp [hastyHistory, ControlChange.Admissible, full, binned]
  obtain ⟨first, initial, adjustment, restore, created, replayed, reacted, -, replay, agrees,
    writable, -⟩ := replay_of_history full true admissible .blank
  exact ⟨admissible, first, initial, adjustment, restore, created, replayed, reacted, replay,
    (agrees _ _ rfl rfl).1, writable⟩

end ControlBank

end ImageSensor
