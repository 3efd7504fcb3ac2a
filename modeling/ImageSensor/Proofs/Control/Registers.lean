import ImageSensor.Proofs.Bus.Memory
import ImageSensor.Proofs.Control.Changes

/-!
# Controls in the Memory of the Sensor

Each writable control has a register of its own, so the writes of a bank do not disturb each other.
A memory that holds the values of all controls of a bank holds those of the changed bank once the
writes of the change are in. In between, the exposure stays below the frame: it is written in front
of the total, and only ever lowered by a change of the frame.

## Main statements

- `apart_of_ne`: different controls are written apart from each other.
- `Rewrites.storedIn`: writing the controls that have changed brings the memory up to date.
- `storedIn_of_replay`: the replay does so whatever was stored before.
- `Selected.leads`, `WasSet.leads`: the writes of a change lead from one bank to the next, and the
  exposure fits into the frame after each of them.
-/

namespace ImageSensor

/-! ## §1 Registers -/

/-- Register of a writable control, with its width. -/
def ControlId.register? : ControlId → Option (RegisterAddress × UInt8)
  | linkFrequency | pixelRate | horizontalBlank => none
  | verticalBlank => some (Register.frameLengthLines, 2)
  | exposure => some (Register.exposure, 2)
  | analogGain => some (Register.analogGain, 2)
  | digitalGain => some (Register.digitalGain, 2)
  | testPattern => some (Register.testPattern, 1)

namespace ControlBank

variable {bank bank' : ControlBank} {id : ControlId} {write : RegisterWrite}

theorem register?_of_registerWrite? (result : bank.registerWrite? id = .ok (some write)) :
    id.register? = some (write.address, write.width) := by
  unfold registerWrite? at result
  split at result
  · cases result
  · cases id <;> simp only [encode] at result
    case verticalBlank =>
      obtain ⟨total, -, result⟩ := Checked.bind_eq_ok_iff.1 result
      cases result
      rfl
    all_goals cases result <;> rfl

theorem validWidth_of_registerWrite? (result : bank.registerWrite? id = .ok (some write)) :
    validWidth write.width = true := by
  have valid : ∀ id ∈ ControlId.all, id.register?.all (fun r => validWidth r.2) = true := by
    decide
  have here := valid id id.mem_all
  rwa [register?_of_registerWrite? result] at here

/-- A writable control that is present has a register write. -/
theorem Ranged.exists_write (ranged : bank.Ranged) (writable : id.isReadOnly = false)
    {setting : Setting} (present : bank.setting? id = some setting) :
    ∃ write, bank.registerWrite? id = .ok (some write) := by
  obtain ⟨write, result⟩ := ranged.registerWrite?_ok id
  rcases write with _ | write
  · have value : bank.value? id = some setting.value := by rw [value?, present]; rfl
    simp only [registerWrite?, value] at result
    cases id with
    | linkFrequency | pixelRate | horizontalBlank => exact nomatch writable
    | verticalBlank =>
      obtain ⟨total, -, result⟩ := Checked.bind_eq_ok_iff.1 result
      cases result
    | exposure | analogGain | digitalGain | testPattern => cases result
  · exact ⟨write, result⟩

/-- Different controls are written apart from each other, also those of different banks. -/
theorem apart_of_ne {other : ControlId} {write' : RegisterWrite}
    (result : bank.registerWrite? id = .ok (some write))
    (result' : bank'.registerWrite? other = .ok (some write')) (ne : id ≠ other) :
    write.Apart write' := by
  have disjoint : ∀ id ∈ ControlId.all, ∀ other ∈ ControlId.all, id ≠ other →
      id.register?.all (fun r => other.register?.all fun r' =>
        r.1.toNat + r.2.toNat ≤ r'.1.toNat || r'.1.toNat + r'.2.toNat ≤ r.1.toNat) = true := by
    decide
  have here := disjoint id id.mem_all other other.mem_all ne
  rw [register?_of_registerWrite? result, register?_of_registerWrite? result'] at here
  simpa [RegisterWrite.Apart] using here

/-- The writes of several controls are writes of these controls. -/
theorem exists_of_mem_writesOf {ids : List ControlId} {writes : List RegisterWrite}
    (result : bank.writesOf ids = .ok writes) (member : write ∈ writes) :
    ∃ id ∈ ids, bank.registerWrite? id = .ok (some write) := by
  induction ids generalizing writes with
  | nil =>
    cases result
    cases member
  | cons id rest ih =>
    obtain ⟨first, here, result⟩ := Checked.bind_eq_ok_iff.1 result
    obtain ⟨later, behind, result⟩ := Checked.bind_eq_ok_iff.1 result
    cases result
    rcases List.mem_append.1 member with member | member
    · rw [Option.mem_toList] at member
      exact ⟨id, List.mem_cons_self, here.trans (congrArg Except.ok member)⟩
    · obtain ⟨other, among, written⟩ := ih behind member
      exact ⟨other, List.mem_cons_of_mem _ among, written⟩

theorem validWidth_of_writesOf {ids : List ControlId} {writes : List RegisterWrite}
    (result : bank.writesOf ids = .ok writes) :
    ∀ write ∈ writes, validWidth write.width = true := by
  intro write member
  obtain ⟨_, -, written⟩ := exists_of_mem_writesOf result member
  exact validWidth_of_registerWrite? written

theorem validWidth_of_set {v : Int} {adjustment : Adjustment}
    (result : bank.set id v = .ok (.ok adjustment)) :
    ∀ write ∈ adjustment.writes, validWidth write.width = true := by
  obtain ⟨ids, written⟩ := (wasSet_of_set result).exists_writesOf
  exact validWidth_of_writesOf written

theorem validWidth_of_setRaw {cid : UInt32} {v : Int} {adjustment : Adjustment}
    (result : bank.setRaw cid v = .ok (.ok adjustment)) :
    ∀ write ∈ adjustment.writes, validWidth write.width = true := by
  obtain ⟨id, set⟩ := wasSet_of_setRaw result
  obtain ⟨ids, written⟩ := set.exists_writesOf
  exact validWidth_of_writesOf written

/-! ## §2 Controls held by a memory -/

variable {memory : Memory}

/-- The memory holds the value of every writable control of the bank. -/
def StoredIn (bank : ControlBank) (memory : Memory) : Prop :=
  ∀ id write, bank.registerWrite? id = .ok (some write) → memory.Holds write

/-- Of the controls that were written, each is held: those written after it lie apart from it. -/
theorem holds_of_writesOf {ids : List ControlId} {writes : List RegisterWrite}
    (result : bank.writesOf ids = .ok writes) (distinct : ids.Nodup) (among : id ∈ ids)
    (own : bank.registerWrite? id = .ok (some write)) :
    (memory.storeAll (writes.map RegisterWrite.frame)).Holds write := by
  induction ids generalizing memory writes with
  | nil => cases among
  | cons head rest ih =>
    obtain ⟨first, here, result⟩ := Checked.bind_eq_ok_iff.1 result
    obtain ⟨later, behind, result⟩ := Checked.bind_eq_ok_iff.1 result
    cases result
    obtain ⟨fresh, distinct⟩ := List.nodup_cons.1 distinct
    rw [List.map_append, Memory.storeAll_append]
    rcases List.mem_cons.1 among with rfl | among
    · cases Except.ok.inj (here.symm.trans own)
      refine (Memory.holds_store memory write).storeAll fun other member => ?_
      obtain ⟨id', within, written⟩ := exists_of_mem_writesOf behind member
      exact apart_of_ne own written fun same => fresh (same ▸ within)
    · exact ih behind distinct among

/-- The second bank differs from the first in the registers of some controls at most, and these are
the writes that bring them up to date. -/
structure Rewrites (bank bank' : ControlBank) (ids : List ControlId)
    (writes : List RegisterWrite) : Prop where
  written : bank'.writesOf ids = .ok writes
  distinct : ids.Nodup
  others : ∀ id, id ∉ ids → bank'.registerWrite? id = bank.registerWrite? id

/-- Writing the controls that have changed brings the memory up to date. -/
theorem Rewrites.storedIn {ids : List ControlId} {writes : List RegisterWrite}
    (rewrites : bank.Rewrites bank' ids writes) (stored : bank.StoredIn memory) :
    bank'.StoredIn (memory.storeAll (writes.map RegisterWrite.frame)) := by
  intro id write own
  by_cases among : id ∈ ids
  · exact holds_of_writesOf rewrites.written rewrites.distinct among own
  · have before := stored id write ((rewrites.others id among).symm.trans own)
    refine before.storeAll fun other member => ?_
    obtain ⟨id', within, written⟩ := exists_of_mem_writesOf rewrites.written member
    exact apart_of_ne own written fun same => among (same ▸ within)

/-- The replay writes every control, so it does not matter what was stored before. -/
theorem storedIn_of_replay {writes : List RegisterWrite} (result : bank.replay = .ok writes)
    (memory : Memory) : bank.StoredIn (memory.storeAll (writes.map RegisterWrite.frame)) :=
  fun id _ own => holds_of_writesOf result (by decide) id.mem_all own

/-- Writes apart from all controls leave what is held of them. -/
theorem StoredIn.storeAll {writes : List RegisterWrite} (stored : bank.StoredIn memory)
    (apart : ∀ id write, bank.registerWrite? id = .ok (some write) → ∀ other ∈ writes,
      write.Apart other) : bank.StoredIn (memory.storeAll (writes.map RegisterWrite.frame)) :=
  fun id write own => (stored id write own).storeAll (apart id write own)

/-! ## §3 The exposure in the frame -/

end ControlBank

/-- The exposure that is stored ends at least four lines in front of the end of the frame that is
stored. -/
def Memory.ExposureFits (memory : Memory) : Prop :=
  ∃ exposure total, memory.word? Register.exposure = some exposure ∧
    memory.word? Register.frameLengthLines = some total ∧ exposure + 4 ≤ total

theorem Memory.exposureFits_of_holds {memory : Memory} {exposure total : UInt32}
    (exposed : memory.Holds ⟨Register.exposure, 2, exposure⟩)
    (framed : memory.Holds ⟨Register.frameLengthLines, 2, total⟩)
    (narrow : total.toNat < byteRange 2) (fits : exposure.toNat + 4 ≤ total.toNat) :
    memory.ExposureFits :=
  ⟨exposure.toNat, total.toNat, exposed.word? (by omega), framed.word? narrow, fits⟩

namespace ControlBank

variable {bank : ControlBank} {memory : Memory}

/-- The exposure as a word, written to its register. -/
theorem Sound.exposure_write (sound : bank.Sound) :
    ∃ exposure, bank.registerWrite? .exposure = .ok (some ⟨Register.exposure, 2, exposure⟩) ∧
      (exposure.toNat : Int) = bank.exposure.value := by
  obtain ⟨low, high⟩ := (sound.exposure _ rfl).value
  obtain ⟨-, few⟩ := sound.ranged.lines_bounds
  have least : exposureMin = 1 := rfl
  have most : verticalTotalMax.toNat = 0xfff7 := rfl
  have margin : exposureMargin = 4 := rfl
  simp only [minimum, maximum] at low high
  exact ⟨UInt32.ofInt bank.exposure.value, rfl, toNat_ofInt_of_lt (by omega) (by omega)⟩

/-- The lines of the frame as a word, written to their register. -/
theorem Ranged.total_write (ranged : bank.Ranged) :
    ∃ total, bank.registerWrite? .verticalBlank =
        .ok (some ⟨Register.frameLengthLines, 2, total⟩) ∧ (total.toNat : Int) = bank.lines := by
  obtain ⟨low, -⟩ := (ranged.spans .verticalBlank nofun _ rfl).value
  obtain ⟨-, few⟩ := ranged.lines_bounds
  have height := ranged.mode.height
  have most : verticalTotalMax.toNat = 0xfff7 := rfl
  simp only [minimum] at low
  obtain ⟨write, result⟩ := ranged.registerWrite?_ok .verticalBlank
  obtain ⟨total, sum, same⟩ := Checked.bind_eq_ok_iff.1 result
  cases same
  refine ⟨total, result, ?_⟩
  have sum : (UInt32.ofInt bank.verticalBlank.value).toNat + bank.mode.height.toNat = total.toNat :=
    Checked.add_eq_ok_iff.1 sum
  unfold lines at few ⊢
  have word := @toNat_ofInt_of_lt bank.verticalBlank.value (by omega) (by omega)
  omega

/-- A memory with the controls of a sound bank has an exposure that fits, and goes on having one
whatever shorter exposure is held instead. -/
theorem Sound.exposureFits_of_le (sound : bank.Sound) {exposure : UInt32}
    (shorter : (exposure.toNat : Int) ≤ bank.exposure.value)
    (exposed : memory.Holds ⟨Register.exposure, 2, exposure⟩)
    (framed : ∀ write, bank.registerWrite? .verticalBlank = .ok (some write) →
      memory.Holds write) : memory.ExposureFits := by
  obtain ⟨total, written, same⟩ := sound.ranged.total_write
  obtain ⟨-, high⟩ := (sound.exposure _ rfl).value
  obtain ⟨-, few⟩ := sound.ranged.lines_bounds
  have most : verticalTotalMax.toNat = 0xfff7 := rfl
  have margin : exposureMargin = 4 := rfl
  have range : byteRange 2 = 0x10000 := rfl
  simp only [maximum] at high
  exact Memory.exposureFits_of_holds exposed (framed _ written) (by omega) (by omega)

theorem Sound.exposureFits (sound : bank.Sound) (stored : bank.StoredIn memory) :
    memory.ExposureFits := by
  obtain ⟨exposure, written, same⟩ := sound.exposure_write
  exact sound.exposureFits_of_le (by omega) (stored .exposure _ written) fun _ =>
    stored .verticalBlank _

/-! ## §4 From one bank to the next -/

variable {adjustment : Adjustment}

/-- The writes of a change lead from a memory with the controls of the bank to one with those of the
changed bank, past memories in which the exposure fits. -/
structure Leads (bank : ControlBank) (adjustment : Adjustment) : Prop where
  stored : ∀ memory, bank.StoredIn memory →
    adjustment.bank.StoredIn (memory.storeAll (adjustment.writes.map RegisterWrite.frame))
  fits : ∀ memory, bank.StoredIn memory → ∀ sent, sent <+: adjustment.writes →
    (memory.storeAll (sent.map RegisterWrite.frame)).ExposureFits
  valid : ∀ write ∈ adjustment.writes, validWidth write.width = true

/-- A change of one register has nothing in between. -/
theorem Rewrites.leads {id : ControlId} (sound : bank.Sound) (sound' : adjustment.bank.Sound)
    (rewrites : bank.Rewrites adjustment.bank [id] adjustment.writes) : bank.Leads adjustment where
  stored _ := rewrites.storedIn
  fits := by
    intro memory stored sent part
    -- a single control has a single write at most, so nothing or everything has been sent
    have few : adjustment.writes.length ≤ 1 := by
      obtain ⟨first, -, result⟩ := Checked.bind_eq_ok_iff.1 rewrites.written
      rw [← Except.ok.inj result]
      cases first <;> simp
    cases sent with
    | nil => exact sound.exposureFits stored
    | cons write rest =>
      have whole : write :: rest = adjustment.writes := by
        refine part.eq_of_length_le ?_
        rw [List.length_cons]
        omega
      rw [whole]
      exact sound'.exposureFits (rewrites.storedIn stored)
  valid := validWidth_of_writesOf rewrites.written

theorem registerWrite?_put_of_ne {id other : ControlId} (ne : other ≠ id) (setting : Setting) :
    (bank.put id setting).registerWrite? other = bank.registerWrite? other := by
  have value : (bank.put id setting).value? other = bank.value? other := by
    rw [value?, setting?_put_of_ne ne, value?]
  have encode v : (bank.put id setting).encode other v = bank.encode other v := by
    cases other <;> simp only [ControlBank.encode, mode_put]
  simp only [registerWrite?, value, encode]

/-- The exposure follows a frame that has changed: the shorter exposure is in before the total. -/
theorem Followed.leads {middle : ControlBank} (followed : middle.Followed adjustment)
    (sound : bank.Sound) (sound' : adjustment.bank.Sound)
    (exposure : middle.exposure = bank.exposure)
    (others : ∀ id, id ≠ .verticalBlank → middle.registerWrite? id = bank.registerWrite? id) :
    bank.Leads adjustment := by
  have spans := sound.exposure _ rfl
  have shorter : adjustment.bank.exposure.value ≤ bank.exposure.value := by
    rw [← exposure] at spans ⊢
    exact followed.exposure_le sound' spans.minimum spans.value.1
  cases followed with
  | @followed exposed writes ranged written =>
    by_cases moved : exposed.value = middle.exposure.value
    · -- the exposure has stayed, so the total is all there is to write
      rw [if_neg (by simp [moved])] at written
      refine Rewrites.leads sound sound' ⟨written, by decide, fun id apart => ?_⟩
      have blank : id ≠ .verticalBlank := fun same => apart (by simp [same])
      refine Eq.trans ?_ (others id blank)
      by_cases same : id = .exposure
      · rw [same]
        show Except.ok (some (RegisterWrite.mk _ 2 (UInt32.ofInt exposed.value))) = _
        rw [moved]
        rfl
      · exact registerWrite?_put_of_ne same _
    · rw [if_pos (by simp [moved])] at written
      have rewrites : bank.Rewrites (middle.put .exposure exposed) [.exposure, .verticalBlank]
          writes := by
        refine ⟨written, by decide, fun id apart => ?_⟩
        simp only [List.mem_cons, List.not_mem_nil, or_false, not_or] at apart
        exact (registerWrite?_put_of_ne apart.1 _).trans (others id apart.2)
      obtain ⟨lowered, exposing, value⟩ := sound'.exposure_write
      obtain ⟨total, framing, -⟩ := sound'.ranged.total_write
      have split : writes = [⟨Register.exposure, 2, lowered⟩,
          ⟨Register.frameLengthLines, 2, total⟩] := by
        simp only [writesOf, exposing, framing] at written
        exact (Except.ok.inj written).symm
      refine ⟨fun _ => rewrites.storedIn, fun memory stored sent part => ?_,
        validWidth_of_writesOf written⟩
      have whole := sound'.exposureFits (rewrites.storedIn stored)
      subst split
      rcases List.prefix_cons_iff.1 part with rfl | ⟨rest, rfl, part₁⟩
      · exact sound.exposureFits stored
      rcases List.prefix_cons_iff.1 part₁ with rfl | ⟨rest, rfl, part₂⟩
      · -- the new exposure stands in the old frame, which is held as before
        refine sound.exposureFits_of_le (by rw [value]; exact shorter)
          (Memory.holds_store _ _) fun write own => ?_
        exact (stored .verticalBlank write own).store (apart_of_ne own exposing (by decide))
      · rw [List.prefix_nil.1 part₂]
        exact whole

theorem Selected.leads {mode : Mode} (selected : bank.Selected mode adjustment)
    (sound : bank.Sound) (sound' : adjustment.bank.Sound) : bank.Leads adjustment := by
  cases selected with
  | selected followed =>
    refine followed.leads sound sound' rfl fun id blank => ?_
    cases id with
    | verticalBlank => exact absurd rfl blank
    | _ => rfl

theorem WasSet.leads {id : ControlId} (set : bank.WasSet id adjustment) (sound : bank.Sound)
    (sound' : adjustment.bank.Sound) : bank.Leads adjustment := by
  cases set with
  | alone writable other present written =>
    refine Rewrites.leads sound sound' ⟨written, by simp, fun id' apart => ?_⟩
    exact registerWrite?_put_of_ne (by simpa using apart) _
  | blank followed =>
    exact followed.leads sound sound' rfl fun id blank => registerWrite?_put_of_ne blank _

end ControlBank

end ImageSensor
