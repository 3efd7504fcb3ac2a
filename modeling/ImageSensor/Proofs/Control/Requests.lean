import ImageSensor.Proofs.Control.Replay

/-!
# Requests to a Control Bank

What a request to set a control comes to, for every bank that a history over well-formed modes leads
to, every control and every number. A request is refused for one of three reasons, which exclude
each other, and changes nothing then. Otherwise it moves the number into the range of the control
and touches nothing else, but for the exposure: that one follows the vertical blank, with the end of
its range and with whatever lies above that end, its default included.

## Main statements

- `Refuses`: the three reasons.
- `SetTo`: a control has been set, with everything that changed and everything that is written.
- `Sound.set_eq_error_iff`, `Sound.setTo_of_set`: a request comes to one of the two.
- `setRaw_cid`, `setRaw_of_unknown`: a request by number is one by identifier, or is refused.
- `requests_exact`: all of this along every history.
- `default_lowered`: the default of the exposure does move with the vertical blank.
-/

namespace ImageSensor

namespace ControlBank

/-! ## §1 What a request comes to -/

variable {bank : ControlBank} {adjustment : Adjustment} {id : ControlId} {v : Int}

/-- Why a request is refused. -/
inductive Refuses (bank : ControlBank) : ControlId → Int → ControlError → Prop where
  /-- The bank does not have the control. -/
  | absent {id : ControlId} {v : Int} (absent : bank.setting? id = none) :
      Refuses bank id v (.unsupported id.cid)
  /-- The control follows from the mode. -/
  | derived {id : ControlId} {v : Int}
      (derived : id ∈ [ControlId.linkFrequency, .pixelRate, .horizontalBlank]) :
      Refuses bank id v (.readOnly id)
  /-- There is no such test pattern. -/
  | offMenu {v : Int} (outside : v < 0 ∨ 3 < v) :
      Refuses bank .testPattern v (.outOfRange .testPattern v)

/-- The control has been set to the number of its range nearest to `v`. -/
structure SetTo (bank : ControlBank) (id : ControlId) (v : Int) (adjustment : Adjustment) :
    Prop where
  mode : adjustment.bank.mode = bank.mode
  own : ∃ old, bank.setting? id = some old ∧ adjustment.bank.setting? id = some (old.movedTo v)
  others : ∀ other, other ≠ id → ¬ (id = .verticalBlank ∧ other = .exposure) →
    adjustment.bank.setting? other = bank.setting? other
  /-- The exposure ends four lines below the frame, wherever the vertical blank is moved to. -/
  exposure : id = .verticalBlank → adjustment.bank.exposure = bank.exposure.limited
    (bank.mode.height.toNat + adjustment.bank.verticalBlank.value - 4)
  /-- The exposure is written in front of the control, if it had to move. -/
  writes : List.Forall₂
    (fun control write => adjustment.bank.registerWrite? control = .ok (some write))
    (if id = .verticalBlank ∧ adjustment.bank.exposure.value ≠ bank.exposure.value then
      [.exposure, id] else [id])
    adjustment.writes

/-- A request fails for want of the control, or because its setting refuses. -/
theorem set_eq_error_iff_request {e : ControlError} :
    bank.set id v = .ok (.error e) ↔
      (bank.setting? id = none ∧ e = .unsupported id.cid) ∨
        ∃ old, bank.setting? id = some old ∧ request id old v = .ok (.error e) := by
  unfold set
  cases present : bank.setting? id with
  | none => simp [pure, Except.pure, eq_comm]
  | some old =>
    constructor
    · intro result
      obtain ⟨requested, asked, result⟩ := Checked.bind_eq_ok_iff.1 result
      rcases requested with e' | setting
      · cases result
        exact .inr ⟨old, rfl, asked⟩
      -- whatever is done about an accepted request, it is not refused later
      · dsimp only at result
        split at result
        · obtain ⟨_, -, result⟩ := Checked.bind_eq_ok_iff.1 result
          cases result
        · obtain ⟨_, -, result⟩ := Checked.bind_eq_ok_iff.1 result
          cases result
    · rintro (⟨absent, -⟩ | ⟨_, same, refused⟩)
      · cases absent
      · cases same
        simp only [refused]
        rfl

theorem Sound.bounded_of_setting? (sound : bank.Sound) {setting : Setting}
    (present : bank.setting? id = some setting) :
    Setting.Bounded setting.minimum setting.maximum := by
  have spans := sound.spans id setting present
  rw [spans.minimum, spans.maximum]
  exact sound.ranged.bounded id

/-- The test patterns are numbered from zero to three. -/
theorem Sound.accepts_testPattern_iff (sound : bank.Sound) :
    bank.testPattern.accepts v = true ↔ 0 ≤ v ∧ v ≤ 3 := by
  have spans := sound.spans .testPattern _ rfl
  rw [Setting.accepts_iff, spans.minimum, spans.maximum]
  exact Iff.rfl

theorem Sound.refuses_of_set (sound : bank.Sound) {e : ControlError}
    (result : bank.set id v = .ok (.error e)) : bank.Refuses id v e := by
  rcases set_eq_error_iff_request.1 result with ⟨absent, rfl⟩ | ⟨old, present, refused⟩
  · exact .absent absent
  cases readOnly : id.isReadOnly with
  | true =>
    rw [request, if_pos readOnly] at refused
    cases refused
    refine .derived ?_
    cases id with
    | linkFrequency | pixelRate | horizontalBlank => simp
    | _ => cases readOnly
  | false =>
    rw [Setting.request_eq readOnly (sound.bounded_of_setting? present)] at refused
    -- of the controls that can be set, the test pattern is the only menu
    cases id with
    | testPattern =>
      obtain rfl := Option.some.inj present
      split at refused
      case isTrue rejected =>
        cases refused
        refine .offMenu ?_
        have outside : ¬ (0 ≤ v ∧ v ≤ 3) := by
          rw [← sound.accepts_testPattern_iff]
          simpa [ControlId.kind, ControlKind.isMenu] using rejected
        omega
      case isFalse => cases refused
    | linkFrequency | pixelRate | horizontalBlank => cases readOnly
    | _ => cases refused

theorem Refuses.set_eq {e : ControlError} (refuses : bank.Refuses id v e) (sound : bank.Sound) :
    bank.set id v = .ok (.error e) := by
  rw [set_eq_error_iff_request]
  cases refuses with
  | absent absent => exact .inl ⟨absent, rfl⟩
  | derived derived =>
    simp only [List.mem_cons, List.not_mem_nil, or_false] at derived
    rcases derived with rfl | rfl | rfl <;> exact .inr ⟨_, rfl, rfl⟩
  | offMenu outside =>
    have rejected : bank.testPattern.accepts v = false := by
      rw [Bool.eq_false_iff, Ne, sound.accepts_testPattern_iff]
      omega
    have bounded := @Sound.bounded_of_setting? bank .testPattern sound _ rfl
    refine .inr ⟨_, rfl, ?_⟩
    rw [Setting.request_eq rfl bounded, rejected]
    rfl

/-- A request is refused for one of the reasons, and for no other. -/
theorem Sound.set_eq_error_iff (sound : bank.Sound) {e : ControlError} :
    bank.set id v = .ok (.error e) ↔ bank.Refuses id v e :=
  ⟨sound.refuses_of_set, fun refuses => refuses.set_eq sound⟩

/-- An accepted request has replaced the value by the nearest one. -/
theorem Sound.eq_movedTo_of_request (sound : bank.Sound) {old setting : Setting}
    (present : bank.setting? id = some old) (accepted : request id old v = .ok (.ok setting)) :
    setting = old.movedTo v := by
  have bounded := sound.bounded_of_setting? present
  rw [Setting.request_eq (isReadOnly_of_request accepted) bounded] at accepted
  split at accepted
  · cases accepted
  · cases accepted
    rfl

/-- The writes of controls that can all be written are one for each of them. -/
theorem Sound.eachOnce_of_writable (sound : bank.Sound) {ids : List ControlId}
    {writes : List RegisterWrite} (writable : ∀ id ∈ ids, bank.isWritable id = true)
    (written : bank.writesOf ids = .ok writes) :
    List.Forall₂ (fun id write => bank.registerWrite? id = .ok (some write)) ids writes := by
  have each := eachOnce_of_writesOf sound.ranged written
  rwa [List.filter_eq_self.2 writable] at each

/-- A request that is accepted does what it was to do, and nothing besides. -/
theorem Sound.setTo_of_set (sound : bank.Sound) (result : bank.set id v = .ok (.ok adjustment)) :
    bank.SetTo id v adjustment := by
  have sound' := sound.of_set result
  have mode := (wasSet_of_set result).mode_eq
  obtain ⟨old, setting, present, accepted, ⟨rfl, followed⟩ | ⟨other, same, written⟩⟩ :=
    exists_setting_of_set result
  · -- the vertical blank: the exposure is adapted in a bank that has the new blank already
    obtain rfl := sound.eq_movedTo_of_request present accepted
    have exposure := sound.exposure _ rfl
    have follows := followed.bank_eq sound' exposure.minimum exposure.value.1
    refine ⟨mode, ⟨old, present, by rw [follows]; rfl⟩, ?_, ?_, ?_⟩
    · intro control ne apart
      rw [follows, setting?_put_of_ne (fun same => apart ⟨rfl, same⟩), setting?_put_of_ne ne]
    · intro _
      rw [follows]
      rfl
    · simp only [true_and]
      refine sound'.eachOnce_of_writable ?_ followed.writesOf_eq
      -- both controls are always there, and neither is read-only
      intro control among
      have either : control = .exposure ∨ control = .verticalBlank := by
        split at among <;> simp_all
      rcases either with rfl | rfl <;> rfl
  · obtain rfl := sound.eq_movedTo_of_request present accepted
    refine ⟨mode, ⟨old, present, ?_⟩, ?_, fun blank => absurd blank other, ?_⟩
    · rw [same, setting?_put_self present]
    · intro control ne _
      rw [same, setting?_put_of_ne ne]
    · rw [if_neg (by simp [other])]
      rw [← same] at written
      refine sound'.eachOnce_of_writable ?_ written
      intro control among
      rw [List.mem_singleton.1 among, isWritable, isReadOnly_of_request accepted, same,
        setting?_put_self present]
      rfl

/-- A request that nothing speaks against is accepted. -/
theorem Sound.exists_setTo (sound : bank.Sound) (unopposed : ∀ e, ¬ bank.Refuses id v e) :
    ∃ adjustment, bank.set id v = .ok (.ok adjustment) ∧ bank.SetTo id v adjustment := by
  obtain ⟨outcome, result, -⟩ := sound.set_ok id v
  cases outcome with
  | error e => exact absurd (sound.refuses_of_set result) (unopposed e)
  | ok adjustment => exact ⟨adjustment, result, sound.setTo_of_set result⟩

/-! ## §2 Requests by number -/

theorem setRaw_cid (bank : ControlBank) (id : ControlId) (v : Int) :
    bank.setRaw id.cid v = bank.set id v := by
  rw [setRaw, ControlId.ofCid?_cid]

theorem setRaw_of_unknown {cid : UInt32} (unknown : ∀ id : ControlId, id.cid ≠ cid) :
    bank.setRaw cid v = .ok (.error (.unsupported cid)) := by
  cases found : ControlId.ofCid? cid with
  | none => rw [setRaw, found]
  | some id => exact absurd (ControlId.eq_of_ofCid? found) (unknown id)

/-! ## §3 Requests along a history -/

/-- Along every history over well-formed modes, a request is refused exactly for one of the reasons
and then changes nothing; any other request sets the control. A number stands for the control it
belongs to, and one that belongs to none is refused. -/
theorem requests_exact {mode : Mode} (wellFormed : mode.WellFormed) (digitalGain : Bool)
    {changes : List ControlChange} (admissible : ∀ change ∈ changes, change.Admissible) :
    ∃ bank, history mode digitalGain changes = .ok bank ∧
      (∀ id v,
        (∀ e, bank.set id v = .ok (.error e) ↔ bank.Refuses id v e) ∧
        (∀ e, bank.Refuses id v e → bank.change (.set id v) = .ok bank) ∧
        ((∀ e, ¬ bank.Refuses id v e) →
          ∃ adjustment, bank.set id v = .ok (.ok adjustment) ∧ bank.SetTo id v adjustment)) ∧
      ∀ cid v,
        (∀ id : ControlId, id.cid = cid → bank.setRaw cid v = bank.set id v) ∧
        ((∀ id : ControlId, id.cid ≠ cid) →
          bank.setRaw cid v = .ok (.error (.unsupported cid)) ∧
            bank.change (.setRaw cid v) = .ok bank) := by
  obtain ⟨first, created, -, sound₁⟩ := ofMode_ok wellFormed digitalGain
  obtain ⟨bank, changed, sound, -, -⟩ := sound₁.changeAll_ok admissible
  refine ⟨bank, ?_, ?_, ?_⟩
  · rw [history, created]
    exact changed
  · intro id v
    refine ⟨fun e => sound.set_eq_error_iff, ?_, sound.exists_setTo⟩
    intro e refuses
    rw [ControlBank.change, refuses.set_eq sound]
    rfl
  · intro cid v
    refine ⟨?_, ?_⟩
    · rintro id rfl
      exact setRaw_cid bank id v
    · intro unknown
      have refused : bank.setRaw cid v = _ := setRaw_of_unknown unknown
      refine ⟨refused, ?_⟩
      rw [ControlBank.change, refused]
      rfl

/-- A mode that is exposed for nearly all lines of its frames. -/
def tallMode : Mode :=
  { Catalog.fullFrame with
    width := 100
    height := 100
    interval := ⟨1, 30⟩
    horizontalTotal := 200
    verticalTotal := 200
    exposure := 190
    cropWidth := 100
    cropHeight := 100 }

/-- A mode with half the lines. -/
def flatMode : Mode :=
  { tallMode with
    height := 50
    verticalTotal := 100
    exposure := 50
    linkFrequencyIndex := 1
    cropHeight := 50 }

/-- Tall frames with a long blank, then flat frames that keep the blank. -/
def flatteningHistory : List ControlChange :=
  [.set .verticalBlank 1000, .selectMode flatMode]

theorem wellFormed_tallMode : tallMode.WellFormed := by
  constructor <;> decide

theorem wellFormed_flatMode : flatMode.WellFormed := by
  constructor <;> decide

theorem admissible_flatteningHistory :
    ∀ change ∈ flatteningHistory, change.Admissible := by
  simp [flatteningHistory, ControlChange.Admissible, wellFormed_flatMode]

/-- After the flattening history the pixel rate cannot be set, and the vertical blank can. -/
theorem requests_flattening :
    ∃ bank, history tallMode false flatteningHistory = .ok bank ∧
      bank.set .pixelRate 1 = .ok (.error (.readOnly .pixelRate)) ∧
      bank.change (.set .pixelRate 1) = .ok bank ∧
      ∃ adjustment, bank.set .verticalBlank 50 = .ok (.ok adjustment) ∧
        bank.SetTo .verticalBlank 50 adjustment := by
  obtain ⟨bank, result, requests, -⟩ :=
    requests_exact wellFormed_tallMode false admissible_flatteningHistory
  have derived : bank.Refuses .pixelRate 1 (.readOnly .pixelRate) := .derived (by simp)
  refine ⟨bank, result, ((requests _ _).1 _).2 derived, (requests _ _).2.1 _ derived,
    (requests _ _).2.2 ?_⟩
  -- the vertical blank is always there, is no menu, and is not derived
  intro e refuses
  cases refuses with
  | absent absent => cases absent
  | derived derived => simp at derived

/-- Setting the vertical blank replaces more than the end and the value of the exposure: its default
is lowered along with them. -/
theorem default_lowered :
    ∃ bank adjustment, history tallMode false flatteningHistory = .ok bank ∧
      bank.set .verticalBlank 50 = .ok (.ok adjustment) ∧
      adjustment.bank.exposure ≠ { bank.exposure with
        maximum := bank.mode.height.toNat + adjustment.bank.verticalBlank.value - 4
        value := min bank.exposure.value
          (bank.mode.height.toNat + adjustment.bank.verticalBlank.value - 4) } ∧
      bank.exposure.default = 190 ∧ adjustment.bank.exposure.default = 96 :=
  ⟨_, _, rfl, rfl, by decide, rfl, rfl⟩

end ControlBank

end ImageSensor
