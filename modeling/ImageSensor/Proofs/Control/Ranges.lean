import ImageSensor.Catalog
import ImageSensor.Proofs.Control.Writes

/-!
# Ranges of a Control Bank

For modes whose numbers fit together every derived quantity exists, and a bank of such a mode keeps
its settings in their ranges whatever is selected or set. No computation of the bank traps then:
the ranges are never empty, and no sum leaves its width.

## Main statements

- `Mode.WellFormed`: what the numbers of a mode have to satisfy; the catalog does.
- `ControlBank.minimum`, `ControlBank.maximum`: the range of every control, as it follows from
  the mode and, for the exposure, from the vertical blank.
- `ControlBank.Sound`: every setting has its range and lies in it.
- `ofMode_ok`, `Sound.selectMode_ok`, `Sound.set_ok`, `Sound.setRaw_ok`, `Sound.replay_ok`: the
  operations of a bank have results, and the banks they lead to are sound again.
-/

namespace ImageSensor

/-! ## §1 Well-formed modes -/

/-- The numbers of a mode fit together. -/
structure Mode.WellFormed (mode : Mode) : Prop where
  width : mode.width.toNat ≤ mode.horizontalTotal.toNat
  height : mode.height.toNat ≤ mode.verticalTotal.toNat
  total : mode.verticalTotal.toNat ≤ verticalTotalMax.toNat
  lines : 5 ≤ mode.verticalTotal.toNat
  link : mode.linkFrequencyIndex < 2
  bits : 10 ≤ mode.bitsPerPixel.toNat
  exposure : 1 ≤ mode.exposure.toNat ∧ mode.exposure.toNat + 4 ≤ mode.verticalTotal.toNat

/-- The modes of the catalog are well formed. -/
theorem Catalog.wellFormed {mode : Mode} (supported : mode ∈ modes) : mode.WellFormed := by
  rcases List.mem_cons.1 supported with rfl | supported
  · constructor <;> decide
  · rw [List.mem_singleton.1 supported]
    constructor <;> decide

theorem Catalog.wellFormed_defaultMode : defaultMode.WellFormed :=
  wellFormed List.mem_cons_self

/-- Words that fit have a difference. -/
theorem Checked.sub_ok {a b : UInt32} (fits : b.toNat ≤ a.toNat) :
    ∃ c, Checked.sub a b = .ok c ∧ c.toNat + b.toNat = a.toNat := by
  refine ⟨a - b, ?_, ?_⟩
  · rw [Checked.sub_eq_ok_iff, UInt32.toNat_sub_of_le _ _ (UInt32.le_iff_toNat_le.2 fits)]
    omega
  · rw [UInt32.toNat_sub_of_le _ _ (UInt32.le_iff_toNat_le.2 fits)]
    omega

theorem Checked.signed_ok {n : Int} (low : -0x8000000000000000 ≤ n)
    (high : n < 0x8000000000000000) : Checked.signed n = .ok n :=
  Checked.signed_eq_ok_iff.2 ⟨rfl, low, high⟩

namespace Mode.WellFormed

variable {mode : Mode}

theorem horizontalBlank_ok (wellFormed : mode.WellFormed) :
    ∃ blank, mode.horizontalBlank = .ok blank ∧
      blank.toNat + mode.width.toNat = mode.horizontalTotal.toNat :=
  Checked.sub_ok wellFormed.width

theorem verticalBlank_ok (wellFormed : mode.WellFormed) :
    ∃ blank, mode.verticalBlank = .ok blank ∧
      blank.toNat + mode.height.toNat = mode.verticalTotal.toNat :=
  Checked.sub_ok wellFormed.height

theorem verticalBlankMax_ok (wellFormed : mode.WellFormed) :
    ∃ blank, mode.verticalBlankMax = .ok blank ∧
      blank.toNat + mode.height.toNat = verticalTotalMax.toNat :=
  Checked.sub_ok (Nat.le_trans wellFormed.height wellFormed.total)

/-- The link is one of those on offer, and a pixel has at least ten bits. -/
theorem pixelRate_ok (wellFormed : mode.WellFormed) :
    ∃ rate, mode.pixelRate = .ok rate ∧ rate ≤ pixelRateMax := by
  have bits : mode.bitsPerPixel ≠ 0 := by
    intro none
    have few := wellFormed.bits
    simp [none] at few
  -- no link is faster than the one the largest rate is made of
  have share (hz : Nat) (fast : hz ≤ 600000000) :
      hz / mode.bitsPerPixel.toNat * 2 * lanes ≤ pixelRateMax := by
    have pixels : hz / mode.bitsPerPixel.toNat ≤ 60000000 := by
      apply Nat.div_le_of_le_mul
      have few := Nat.mul_le_mul_right 60000000 wellFormed.bits
      omega
    have most : pixelRateMax = 60000000 * 2 * lanes := by decide
    rw [most]
    exact Nat.mul_le_mul_right _ (Nat.mul_le_mul_right _ pixels)
  have frequency : ∃ hz, mode.linkFrequency = .ok hz ∧ hz ≤ 600000000 := by
    have link := wellFormed.link
    have index : mode.linkFrequencyIndex = 0 ∨ mode.linkFrequencyIndex = 1 := by omega
    unfold linkFrequency
    rcases index with zero | one
    · rw [zero]
      exact ⟨_, rfl, by decide⟩
    · rw [one]
      exact ⟨_, rfl, by decide⟩
  obtain ⟨hz, found, fast⟩ := frequency
  refine ⟨hz / mode.bitsPerPixel.toNat * 2 * lanes, ?_, share hz fast⟩
  simp only [pixelRate, found, bind, Except.bind, if_neg bits]
  rfl

end Mode.WellFormed

/-! ## §2 Settings in range -/

/-- A setting with the range `low..high` whose default and value lie in it. -/
structure Setting.Spans (setting : Setting) (low high : Int) : Prop where
  minimum : setting.minimum = low
  maximum : setting.maximum = high
  default : low ≤ setting.default ∧ setting.default ≤ high
  value : low ≤ setting.value ∧ setting.value ≤ high

namespace Setting

variable {setting : Setting} {low high : Int}

theorem spans_atDefault {default : Int} (inside : low ≤ default ∧ default ≤ high) :
    (atDefault low high default).Spans low high :=
  ⟨rfl, rfl, inside, inside⟩

/-- The bounds of all ranges in use lie far inside the signed numbers. -/
structure Bounded (low high : Int) : Prop where
  bottom : -0x4000000000000000 ≤ low
  top : high < 0x4000000000000000
  nonempty : low ≤ high

/-- A new range takes the value along. -/
theorem setRange_eq (bounded : Bounded low high) (default : Int) :
    setting.setRange low high default =
      .ok ⟨low, high, default, max low (min setting.value high)⟩ := by
  have nearest := @nearest_eq_ok ⟨low, high, default, setting.value⟩ ⟨bounded.bottom, bounded.top⟩
    bounded.nonempty setting.value
  simp only [setRange, nearest]
  rfl

theorem setRange_ok (bounded : Bounded low high) {default : Int}
    (inside : low ≤ default ∧ default ≤ high) :
    ∃ setting', setting.setRange low high default = .ok setting' ∧ setting'.Spans low high := by
  have nonempty := bounded.nonempty
  refine ⟨_, setRange_eq bounded default, rfl, rfl, inside, Int.le_max_left _ _, ?_⟩
  show max low (min setting.value high) ≤ high
  omega

/-- The setting with the number of its range that is nearest to `v`. -/
def movedTo (setting : Setting) (v : Int) : Setting :=
  { setting with value := max setting.minimum (min v setting.maximum) }

/-- Range and default stay; where the value was before does not matter. -/
theorem Spans.movedTo (spans : setting.Spans low high) (nonempty : low ≤ high) (v : Int) :
    (setting.movedTo v).Spans low high := by
  obtain ⟨rfl, rfl, inside, -⟩ := spans
  refine ⟨rfl, rfl, inside, Int.le_max_left _ _, ?_⟩
  show max setting.minimum (min v setting.maximum) ≤ setting.maximum
  omega

/-- A request for an integer moves the value into the range. -/
theorem setNearest_eq (bounded : Bounded setting.minimum setting.maximum) (v : Int) :
    setting.setNearest v = .ok (setting.movedTo v) := by
  have nearest := nearest_eq_ok ⟨bounded.bottom, bounded.top⟩ bounded.nonempty v
  simp only [setNearest, nearest]
  rfl

theorem accepts_iff {v : Int} :
    setting.accepts v = true ↔ setting.minimum ≤ v ∧ v ≤ setting.maximum := by
  rw [accepts, Bool.and_eq_true, decide_eq_true_eq, decide_eq_true_eq]

/-- A number of the range is not moved. -/
theorem movedTo_of_accepts {v : Int} (accepted : setting.accepts v = true) :
    setting.movedTo v = { setting with value := v } := by
  obtain ⟨low, high⟩ := accepts_iff.1 accepted
  rw [movedTo, Int.min_eq_left high, Int.max_eq_right low]

/-- A control that can be set takes every number, unless it is a menu. -/
theorem request_eq {id : ControlId} (writable : id.isReadOnly = false)
    (bounded : Bounded setting.minimum setting.maximum) (v : Int) :
    ControlBank.request id setting v =
      .ok (if id.kind.isMenu && !setting.accepts v then .error (.outOfRange id v)
        else .ok (setting.movedTo v)) := by
  rw [ControlBank.request, if_neg (by simp [writable])]
  cases menu : id.kind.isMenu with
  | true =>
    cases accepted : setting.accepts v with
    | true => simp [movedTo_of_accepts accepted]
    | false => simp
  | false =>
    rw [setNearest_eq bounded v]
    rfl

/-- Whatever is requested, the setting stays in its range. -/
theorem request_ok {id : ControlId} (spans : setting.Spans low high)
    (bounded : Bounded low high) (v : Int) :
    ∃ outcome, ControlBank.request id setting v = .ok outcome ∧
      ∀ setting', outcome = .ok setting' →
        id.isReadOnly = false ∧ setting'.Spans low high := by
  cases readOnly : id.isReadOnly with
  | true => exact ⟨.error (.readOnly id), by rw [ControlBank.request, if_pos readOnly], nofun⟩
  | false =>
    have own : Bounded setting.minimum setting.maximum := by
      rwa [spans.minimum, spans.maximum]
    refine ⟨_, request_eq readOnly own v, ?_⟩
    intro setting' same
    split at same
    case isTrue => cases same
    case isFalse =>
      rw [← Except.ok.inj same]
      exact ⟨rfl, spans.movedTo bounded.nonempty v⟩

end Setting

/-! ## §3 Sound banks -/

namespace ControlBank

/-- Lines of a frame at the current vertical blank. -/
def lines (bank : ControlBank) : Int :=
  bank.mode.height.toNat + bank.verticalBlank.value

/-- Smallest value of a control. -/
def minimum (bank : ControlBank) : ControlId → Int
  | .linkFrequency | .pixelRate | .testPattern => 0
  | .horizontalBlank => bank.mode.horizontalTotal.toNat - bank.mode.width.toNat
  | .verticalBlank => bank.mode.verticalTotal.toNat - bank.mode.height.toNat
  | .exposure => exposureMin
  | .analogGain => analogGainRange.minimum
  | .digitalGain => digitalGainRange.minimum

/-- Largest value of a control. -/
def maximum (bank : ControlBank) : ControlId → Int
  | .linkFrequency => 1
  | .pixelRate => pixelRateMax
  | .horizontalBlank => bank.mode.horizontalTotal.toNat - bank.mode.width.toNat
  | .verticalBlank => verticalTotalMax.toNat - bank.mode.height.toNat
  | .exposure => bank.lines - exposureMargin
  | .analogGain => analogGainRange.maximum
  | .digitalGain => digitalGainRange.maximum
  | .testPattern => testPatterns.length - 1

/-- The setting of a control, if there is one, has the range of the control. -/
def InRange (bank : ControlBank) (id : ControlId) : Prop :=
  ∀ setting, bank.setting? id = some setting →
    setting.Spans (bank.minimum id) (bank.maximum id)

/-- The link and its rate are those of the mode, and everything but the exposure is in range. -/
structure Ranged (bank : ControlBank) : Prop where
  mode : bank.mode.WellFormed
  linkFrequency : bank.linkFrequency.value = bank.mode.linkFrequencyIndex
  pixelRate : ∃ rate : Nat, bank.mode.pixelRate = .ok rate ∧ bank.pixelRate.value = rate
  spans : ∀ id, id ≠ .exposure → bank.InRange id

/-- All settings are in range; in particular the exposure fits into the frame. -/
structure Sound (bank : ControlBank) : Prop where
  ranged : bank.Ranged
  exposure : bank.InRange .exposure

variable {bank : ControlBank}

theorem Sound.spans (sound : bank.Sound) (id : ControlId) : bank.InRange id := by
  by_cases same : id = .exposure
  · rw [same]
    exact sound.exposure
  · exact sound.ranged.spans id same

/-- A frame has at least the lines of the mode, and at most as many as can be counted. -/
theorem Ranged.lines_bounds (ranged : bank.Ranged) :
    bank.mode.verticalTotal.toNat ≤ bank.lines ∧ bank.lines ≤ verticalTotalMax.toNat := by
  obtain ⟨low, high⟩ := (ranged.spans .verticalBlank nofun _ rfl).value
  simp only [minimum, maximum] at low high
  unfold lines
  omega

/-- No range is empty, and none comes close to the limits of the signed numbers. -/
theorem Ranged.bounded (ranged : bank.Ranged) (id : ControlId) :
    Setting.Bounded (bank.minimum id) (bank.maximum id) := by
  have most : verticalTotalMax.toNat = 0xfff7 := rfl
  have width := ranged.mode.width
  have height := ranged.mode.height
  have total := ranged.mode.total
  have word := bank.mode.horizontalTotal.toNat_lt
  cases id with
  | horizontalBlank => constructor <;> simp only [minimum, maximum] <;> omega
  | verticalBlank => constructor <;> simp only [minimum, maximum] <;> omega
  | exposure =>
    -- the shortest frame still leaves a line to expose
    have five := ranged.mode.lines
    obtain ⟨enough, few⟩ := ranged.lines_bounds
    have least : exposureMin = 1 := rfl
    have margin : exposureMargin = 4 := rfl
    constructor <;> simp only [minimum, maximum] <;> omega
  | linkFrequency => constructor <;> simp only [minimum, maximum] <;> decide
  | pixelRate => constructor <;> simp only [minimum, maximum] <;> decide
  | analogGain => constructor <;> simp only [minimum, maximum] <;> decide
  | digitalGain => constructor <;> simp only [minimum, maximum] <;> decide
  | testPattern => constructor <;> simp only [minimum, maximum] <;> decide

/-! ## §4 Register writes exist -/

/-- A number that is a word survives the conversion. -/
theorem toNat_ofInt_of_lt {v : Int} (low : 0 ≤ v) (high : v < 0x100000000) :
    ((UInt32.ofInt v).toNat : Int) = v := by
  simp only [UInt32.ofInt, UInt32.toNat_ofNat']
  omega

/-- The vertical blank and the height add up to a frame length. -/
theorem Ranged.registerWrite?_ok (ranged : bank.Ranged) (id : ControlId) :
    ∃ write, bank.registerWrite? id = .ok write := by
  unfold registerWrite?
  split
  · exact ⟨none, rfl⟩
  · next v value =>
    cases id with
    | verticalBlank =>
      -- blank and height together are at most the largest total, far from the word limit
      have same : bank.verticalBlank.value = v := Option.some.inj value
      obtain ⟨-, few⟩ := ranged.lines_bounds
      obtain ⟨low, -⟩ := (ranged.spans .verticalBlank nofun _ rfl).value
      have height := ranged.mode.height
      have most : verticalTotalMax.toNat = 0xfff7 := rfl
      simp only [minimum] at low
      unfold lines at few
      have word := @toNat_ofInt_of_lt v (by omega) (by omega)
      have sum : Checked.add (UInt32.ofInt v) bank.mode.height =
          .ok (UInt32.ofInt v + bank.mode.height) := by
        rw [Checked.add_eq_ok_iff, UInt32.toNat_add]
        omega
      exact ⟨_, by simp only [encode, sum]; rfl⟩
    | _ => exact ⟨_, rfl⟩

theorem Ranged.writesOf_ok (ranged : bank.Ranged) (ids : List ControlId) :
    ∃ writes, bank.writesOf ids = .ok writes := by
  induction ids with
  | nil => exact ⟨[], rfl⟩
  | cons id rest ih =>
    obtain ⟨write, here⟩ := ranged.registerWrite?_ok id
    obtain ⟨writes, later⟩ := ih
    exact ⟨write.toList ++ writes, by simp only [writesOf, here, later]; rfl⟩

theorem Sound.replay_ok (sound : bank.Sound) : ∃ writes, bank.replay = .ok writes :=
  sound.ranged.writesOf_ok _

/-! ## §5 Replacing a setting -/

theorem mode_put (bank : ControlBank) (id : ControlId) (setting : Setting) :
    (bank.put id setting).mode = bank.mode := by
  cases id <;> rfl

/-- Only the range of the exposure depends on a setting. -/
theorem range_put {id other : ControlId} (fixed : other ≠ .exposure) (setting : Setting) :
    (bank.put id setting).minimum other = bank.minimum other ∧
      (bank.put id setting).maximum other = bank.maximum other := by
  cases other with
  | exposure => exact absurd rfl fixed
  | _ => cases id <;> exact ⟨rfl, rfl⟩

/-- A control that is present can be given any value of its range, unless it follows from the
mode. -/
theorem Ranged.put (ranged : bank.Ranged) {id : ControlId} (writable : id.isReadOnly = false)
    {old : Setting} (present : bank.setting? id = some old) {setting : Setting}
    (spans : setting.Spans (bank.minimum id) (bank.maximum id)) :
    (bank.put id setting).Ranged := by
  refine ⟨?_, ?_, ?_, ?_⟩
  · rw [mode_put]
    exact ranged.mode
  · cases id <;> first | exact ranged.linkFrequency | exact nomatch writable
  · cases id <;> first | exact ranged.pixelRate | exact nomatch writable
  -- the ranges do not move, so only the setting that was replaced is looked at anew
  intro other fixed found here
  obtain ⟨low, high⟩ := @range_put bank id other fixed setting
  rw [low, high]
  by_cases same : other = id
  · rw [same, setting?_put_self present] at here
    rw [same, ← Option.some.inj here]
    exact spans
  · rw [setting?_put_of_ne same] at here
    exact ranged.spans other fixed found here

/-- The exposure stays in range if the vertical blank stays as it is. -/
theorem Sound.put (sound : bank.Sound) {id : ControlId} (writable : id.isReadOnly = false)
    (other : id ≠ .verticalBlank) {old : Setting} (present : bank.setting? id = some old)
    {setting : Setting} (spans : setting.Spans (bank.minimum id) (bank.maximum id)) :
    (bank.put id setting).Sound := by
  refine ⟨sound.ranged.put writable present spans, ?_⟩
  have low : (bank.put id setting).minimum .exposure = bank.minimum .exposure := rfl
  have high : (bank.put id setting).maximum .exposure = bank.maximum .exposure := by
    cases id with
    | verticalBlank => exact absurd rfl other
    | _ => rfl
  intro found here
  rw [low, high]
  by_cases same : .exposure = id
  · subst same
    rw [← Option.some.inj here]
    exact spans
  · rw [setting?_put_of_ne same] at here
    exact sound.exposure found here

/-! ## §6 Changes -/

/-- Adapting the exposure to the frame completes a bank. -/
theorem Ranged.followVerticalBlank_ok (ranged : bank.Ranged)
    (minimum : bank.exposure.minimum = exposureMin)
    (default : exposureMin ≤ bank.exposure.default) :
    ∃ adjustment, bank.followVerticalBlank = .ok adjustment ∧ adjustment.bank.Sound := by
  have bounded := ranged.bounded .exposure
  have margin : exposureMargin = 4 := rfl
  obtain ⟨enough, few⟩ := ranged.lines_bounds
  have most : verticalTotalMax.toNat = 0xfff7 := rfl
  -- neither the sum nor the difference leaves the signed numbers
  have total : Checked.signed (bank.mode.height.toNat + bank.verticalBlank.value) =
      .ok bank.lines :=
    Checked.signed_ok (by unfold lines at enough; omega) (by unfold lines at few; omega)
  have highest : Checked.signed (bank.lines - exposureMargin) =
      .ok (bank.lines - exposureMargin) :=
    Checked.signed_ok (by omega) (by omega)
  have inside : exposureMin ≤ min bank.exposure.default (bank.lines - exposureMargin) ∧
      min bank.exposure.default (bank.lines - exposureMargin) ≤ bank.lines - exposureMargin := by
    have nonempty : exposureMin ≤ bank.lines - exposureMargin := bounded.nonempty
    omega
  obtain ⟨exposure, moved, spans⟩ := @Setting.setRange_ok bank.exposure _ _ bounded _ inside
  have ranged' : (bank.put .exposure exposure).Ranged := ranged.put rfl rfl spans
  obtain ⟨writes, written⟩ := ranged'.writesOf_ok
    (if exposure.value != bank.exposure.value then [.exposure, .verticalBlank]
      else [.verticalBlank])
  refine ⟨⟨bank.put .exposure exposure, writes⟩, ?_, ranged', ?_⟩
  · change bank.exposure.setRange exposureMin (bank.lines - exposureMargin) _ = _ at moved
    rw [← minimum] at moved
    change writesOf { bank with exposure } _ = _ at written
    simp only [followVerticalBlank, total, highest, moved, written, bind, Except.bind]
    rfl
  · intro setting present
    rw [← Option.some.inj present]
    exact spans

/-- A well-formed mode can be selected, whatever mode the bank had. -/
theorem Sound.selectMode_ok (sound : bank.Sound) {mode : Mode} (wellFormed : mode.WellFormed) :
    ∃ adjustment, bank.selectMode mode = .ok adjustment ∧ adjustment.bank.Sound := by
  obtain ⟨rate, rated, fast⟩ := wellFormed.pixelRate_ok
  obtain ⟨blank, blanked, wide⟩ := wellFormed.horizontalBlank_ok
  obtain ⟨default, defaulted, shortest⟩ := wellFormed.verticalBlank_ok
  obtain ⟨largest, limited, longest⟩ := wellFormed.verticalBlankMax_ok
  have link := wellFormed.link
  have total := wellFormed.total
  have word := blank.toNat_lt
  have most : verticalTotalMax.toNat = 0xfff7 := rfl
  obtain ⟨horizontal, moved, spans⟩ := @Setting.setRange_ok bank.horizontalBlank
    blank.toNat blank.toNat (by constructor <;> omega) blank.toNat (by omega)
  obtain ⟨vertical, moved', spans'⟩ := @Setting.setRange_ok bank.verticalBlank
    default.toNat largest.toNat (by constructor <;> omega) default.toNat (by omega)
  have columns : (mode.horizontalTotal.toNat : Int) - mode.width.toNat = blank.toNat := by omega
  have low : (mode.verticalTotal.toNat : Int) - mode.height.toNat = default.toNat := by omega
  have high : (verticalTotalMax.toNat : Int) - mode.height.toNat = largest.toNat := by omega
  -- the bank in front of the exposure, which is adapted to the new frame last
  let bank' : ControlBank := { bank with
    mode
    linkFrequency := { bank.linkFrequency with value := mode.linkFrequencyIndex }
    pixelRate := { bank.pixelRate with value := rate }
    horizontalBlank := horizontal
    verticalBlank := vertical }
  have ranged : bank'.Ranged := by
    refine ⟨wellFormed, rfl, ⟨rate, rated, rfl⟩, ?_⟩
    intro id fixed setting present
    have before := sound.spans id
    cases id with
    | linkFrequency =>
      obtain ⟨minimum, maximum, inside, -⟩ := before _ rfl
      rw [← Option.some.inj present]
      refine ⟨minimum, maximum, inside, ?_⟩
      show 0 ≤ (mode.linkFrequencyIndex : Int) ∧ (mode.linkFrequencyIndex : Int) ≤ 1
      omega
    | pixelRate =>
      obtain ⟨minimum, maximum, inside, -⟩ := before _ rfl
      rw [← Option.some.inj present]
      refine ⟨minimum, maximum, inside, ?_⟩
      show 0 ≤ (rate : Int) ∧ (rate : Int) ≤ pixelRateMax
      omega
    | horizontalBlank =>
      rw [← Option.some.inj present]
      show horizontal.Spans (mode.horizontalTotal.toNat - mode.width.toNat)
        (mode.horizontalTotal.toNat - mode.width.toNat)
      rwa [columns]
    | verticalBlank =>
      rw [← Option.some.inj present]
      show vertical.Spans (mode.verticalTotal.toNat - mode.height.toNat)
        (verticalTotalMax.toNat - mode.height.toNat)
      rwa [low, high]
    | exposure => exact absurd rfl fixed
    | analogGain => exact before setting present
    | digitalGain => exact before setting present
    | testPattern => exact before setting present
  have exposure := sound.exposure _ rfl
  obtain ⟨adjustment, followed, sound'⟩ :=
    ranged.followVerticalBlank_ok exposure.minimum exposure.default.1
  refine ⟨adjustment, ?_, sound'⟩
  simp only [selectMode, rated, blanked, moved, defaulted, limited, moved', bind, Except.bind]
  exact followed

/-- Setting a control to anything has a result, and leaves a sound bank. -/
theorem Sound.set_ok (sound : bank.Sound) (id : ControlId) (v : Int) :
    ∃ outcome, bank.set id v = .ok outcome ∧
      ∀ adjustment, outcome = .ok adjustment → adjustment.bank.Sound := by
  cases present : bank.setting? id with
  | none =>
    refine ⟨.error (.unsupported id.cid), ?_, by simp⟩
    simp only [set, present, pure, Except.pure]
  | some old =>
    obtain ⟨outcome, requested, inRange⟩ :=
      @Setting.request_ok _ _ _ id (sound.spans id _ present) (sound.ranged.bounded id) v
    rcases outcome with e | setting
    · refine ⟨.error e, ?_, by simp⟩
      simp only [set, present, requested, bind, Except.bind, pure, Except.pure]
    obtain ⟨writable, spans⟩ := inRange setting rfl
    -- the exposure follows the vertical blank, and nothing follows the other controls
    by_cases blank : id = .verticalBlank
    · have kept : (bank.put id setting).exposure = bank.exposure := by rw [blank]; rfl
      have exposure := sound.exposure _ rfl
      rw [← kept] at exposure
      obtain ⟨adjustment, followed, sound'⟩ :=
        (sound.ranged.put writable present spans).followVerticalBlank_ok exposure.minimum
          exposure.default.1
      refine ⟨.ok adjustment, ?_, ?_⟩
      · simp only [set, present, requested, bind, Except.bind, if_pos blank, followed, pure,
          Except.pure]
      · intro other same
        rwa [← Except.ok.inj same]
    · have sound' := sound.put writable blank present spans
      obtain ⟨writes, written⟩ := sound'.ranged.writesOf_ok [id]
      refine ⟨.ok ⟨bank.put id setting, writes⟩, ?_, ?_⟩
      · simp only [set, present, requested, bind, Except.bind, if_neg blank, written, pure,
          Except.pure]
      · intro other same
        rwa [← Except.ok.inj same]

theorem Sound.setRaw_ok (sound : bank.Sound) (cid : UInt32) (v : Int) :
    ∃ outcome, bank.setRaw cid v = .ok outcome ∧
      ∀ adjustment, outcome = .ok adjustment → adjustment.bank.Sound := by
  unfold setRaw
  split
  · exact ⟨.error (.unsupported cid), rfl, by simp⟩
  · exact sound.set_ok _ v

theorem Sound.of_set (sound : bank.Sound) {id : ControlId} {v : Int} {adjustment : Adjustment}
    (result : bank.set id v = .ok (.ok adjustment)) : adjustment.bank.Sound := by
  obtain ⟨_, result', sound'⟩ := sound.set_ok id v
  exact sound' adjustment (Except.ok.inj (result'.symm.trans result))

theorem Sound.of_selectMode (sound : bank.Sound) {mode : Mode} (wellFormed : mode.WellFormed)
    {adjustment : Adjustment} (result : bank.selectMode mode = .ok adjustment) :
    adjustment.bank.Sound := by
  obtain ⟨_, result', sound'⟩ := sound.selectMode_ok wellFormed
  rwa [Except.ok.inj (result'.symm.trans result)] at sound'

/-- The controls of a well-formed mode, at their defaults. -/
theorem ofMode_ok {mode : Mode} (wellFormed : mode.WellFormed) (digitalGain : Bool) :
    ∃ bank, ofMode mode digitalGain = .ok bank ∧ bank.mode = mode ∧ bank.Sound := by
  obtain ⟨rate, rated, fast⟩ := wellFormed.pixelRate_ok
  obtain ⟨blank, blanked, wide⟩ := wellFormed.horizontalBlank_ok
  obtain ⟨default, defaulted, shortest⟩ := wellFormed.verticalBlank_ok
  obtain ⟨largest, limited, longest⟩ := wellFormed.verticalBlankMax_ok
  have link := wellFormed.link
  have total := wellFormed.total
  have exposed := wellFormed.exposure
  have most : verticalTotalMax.toNat = 0xfff7 := rfl
  have margin : exposureMargin = 4 := rfl
  have least : exposureMin = 1 := rfl
  have highest : Checked.signed (mode.verticalTotal.toNat - exposureMargin) =
      .ok (mode.verticalTotal.toNat - exposureMargin) :=
    Checked.signed_ok (by omega) (by omega)
  let bank : ControlBank := {
    mode
    linkFrequency := .atDefault 0 1 mode.linkFrequencyIndex
    pixelRate := .atDefault 0 pixelRateMax rate
    horizontalBlank := .atDefault blank.toNat blank.toNat blank.toNat
    verticalBlank := .atDefault default.toNat largest.toNat default.toNat
    exposure := .atDefault exposureMin (mode.verticalTotal.toNat - exposureMargin)
      mode.exposure.toNat
    analogGain := analogGainRange
    digitalGain := if digitalGain then some digitalGainRange else none
    testPattern := .atDefault 0 (testPatterns.length - 1) 0 }
  refine ⟨bank, ?_, rfl, ⟨wellFormed, rfl, ⟨rate, rated, rfl⟩, ?_⟩, ?_⟩
  · simp only [ofMode, blanked, defaulted, highest, rated, limited, bind, Except.bind]
    rfl
  · intro id fixed setting present
    cases id with
    | linkFrequency =>
      rw [← Option.some.inj present]
      exact Setting.spans_atDefault (by omega)
    | pixelRate =>
      rw [← Option.some.inj present]
      exact Setting.spans_atDefault (by omega)
    | horizontalBlank =>
      have columns : (mode.horizontalTotal.toNat : Int) - mode.width.toNat = blank.toNat := by
        omega
      rw [← Option.some.inj present]
      show (Setting.atDefault _ _ _).Spans (mode.horizontalTotal.toNat - mode.width.toNat)
        (mode.horizontalTotal.toNat - mode.width.toNat)
      rw [columns]
      exact Setting.spans_atDefault (by omega)
    | verticalBlank =>
      have low : (mode.verticalTotal.toNat : Int) - mode.height.toNat = default.toNat := by omega
      have high : (verticalTotalMax.toNat : Int) - mode.height.toNat = largest.toNat := by omega
      rw [← Option.some.inj present]
      show (Setting.atDefault _ _ _).Spans (mode.verticalTotal.toNat - mode.height.toNat)
        (verticalTotalMax.toNat - mode.height.toNat)
      rw [low, high]
      exact Setting.spans_atDefault (by omega)
    | exposure => exact absurd rfl fixed
    | analogGain =>
      rw [← Option.some.inj present]
      exact Setting.spans_atDefault (by decide)
    | digitalGain =>
      cases digitalGain with
      | false => exact nomatch present
      | true =>
        rw [← Option.some.inj present]
        exact Setting.spans_atDefault (by decide)
    | testPattern =>
      rw [← Option.some.inj present]
      exact Setting.spans_atDefault (by decide)
  · -- at the default vertical blank a frame has the lines of the mode
    intro setting present
    have frame : bank.lines = mode.verticalTotal.toNat := by
      show (mode.height.toNat : Int) + default.toNat = mode.verticalTotal.toNat
      omega
    rw [← Option.some.inj present]
    show (Setting.atDefault _ _ _).Spans exposureMin (bank.lines - exposureMargin)
    rw [frame]
    exact Setting.spans_atDefault (by omega)

end ControlBank

end ImageSensor
