import Mathlib.Order.Bounds.Defs
import ImageSensor.Proofs.Control.Requests

/-!
# Selecting a Mode against Starting in It

The controls of a mode can be had in two ways: made from the mode, or derived when the mode is
selected in a bank that had another one. The two agree on the blanks, whatever went on before. They
do not agree on every default. The defaults of the link and of its rate stay those of the first
mode, and the default of the exposure is never derived from a mode again: it is lowered whenever the
exposure ends below it, and stays there.

## Main statements

- `followed_of_selectMode`: what selecting a mode takes from the controls of that mode.
- `Inherits`, `Sound.inherits_of_change`: what every change carries over from the bank before it.
- `Sound.changeAll_inherits`: what is left of the first bank after a whole history.
- `selection_inherits`: the bank after a selection, beside the controls of the selected mode.
- `stale_defaults`: two defaults that a selection leaves behind.
-/

namespace ImageSensor

/-- Two settings that differ in their defaults at most. -/
theorem Setting.eq_with_default {setting other : Setting} {default : Int}
    (range : setting.minimum = other.minimum ∧ setting.maximum = other.maximum)
    (value : setting.value = other.value) (own : setting.default = default) :
    setting = { other with default } := by
  cases setting
  simp_all

namespace ControlBank

variable {bank bank' : ControlBank} {adjustment : Adjustment}

/-! ## §1 Deriving from a mode -/

/-- The bank in a new mode, before the exposure is adapted to its frames. What follows from the mode
is taken over from the controls `fresh` of that mode, the vertical blank as far as it has to be. -/
def rederived (bank fresh : ControlBank) : ControlBank :=
  { bank with
    mode := fresh.mode
    linkFrequency := { bank.linkFrequency with value := fresh.linkFrequency.value }
    pixelRate := { bank.pixelRate with value := fresh.pixelRate.value }
    horizontalBlank := fresh.horizontalBlank
    verticalBlank := fresh.verticalBlank.movedTo bank.verticalBlank.value }

/-- Selecting a mode computes the same numbers as making its controls. -/
theorem followed_of_selectMode {mode : Mode} (wellFormed : mode.WellFormed) {digitalGain : Bool}
    {fresh : ControlBank} (created : ofMode mode digitalGain = .ok fresh)
    (result : bank.selectMode mode = .ok adjustment) :
    (bank.rederived fresh).Followed adjustment := by
  obtain ⟨blank, blanked, created⟩ := Checked.bind_eq_ok_iff.1 created
  obtain ⟨default, defaulted, created⟩ := Checked.bind_eq_ok_iff.1 created
  obtain ⟨_, -, created⟩ := Checked.bind_eq_ok_iff.1 created
  obtain ⟨rate, rated, created⟩ := Checked.bind_eq_ok_iff.1 created
  obtain ⟨largest, limited, created⟩ := Checked.bind_eq_ok_iff.1 created
  cases created
  have word := blank.toNat_lt
  have shortest : mode.verticalTotal.toNat = default.toNat + mode.height.toNat :=
    Checked.sub_eq_ok_iff.1 defaulted
  have longest : verticalTotalMax.toNat = largest.toNat + mode.height.toNat :=
    Checked.sub_eq_ok_iff.1 limited
  have total := wellFormed.total
  have most : verticalTotalMax.toNat = 0xfff7 := rfl
  -- a range of one number leaves no choice of a value
  have columns : bank.horizontalBlank.setRange blank.toNat blank.toNat blank.toNat =
      .ok (.atDefault blank.toNat blank.toNat blank.toNat) := by
    rw [Setting.setRange_eq (by constructor <;> omega), Setting.atDefault]
    congr 2
    omega
  have rows : bank.verticalBlank.setRange default.toNat largest.toNat default.toNat =
      .ok ((Setting.atDefault default.toNat largest.toNat default.toNat).movedTo
        bank.verticalBlank.value) :=
    Setting.setRange_eq (by constructor <;> omega) _
  simp only [selectMode, rated, blanked, defaulted, limited, columns, rows, bind,
    Except.bind] at result
  exact followed_of_followVerticalBlank result

/-! ## §2 What a change carries over -/

/-- What is left of a bank after a change: of the link and its rate everything but the value, and
the default of the exposure, unless the exposure now ends below it. -/
structure Inherits (bank bank' : ControlBank) : Prop where
  linkFrequency : ∃ value, bank'.linkFrequency = { bank.linkFrequency with value }
  pixelRate : ∃ value, bank'.pixelRate = { bank.pixelRate with value }
  exposure : bank'.exposure.default = min bank.exposure.default bank'.exposure.maximum

theorem Sound.default_le (sound : bank.Sound) : bank.exposure.default ≤ bank.exposure.maximum := by
  have spans := sound.exposure _ rfl
  rw [spans.maximum]
  exact spans.default.2

theorem Sound.inherits_refl (sound : bank.Sound) : bank.Inherits bank :=
  ⟨⟨_, rfl⟩, ⟨_, rfl⟩, (Int.min_eq_left sound.default_le).symm⟩

/-- Following the vertical blank lowers the default of the exposure, if anything. -/
theorem Followed.inherits (followed : bank.Followed adjustment) (sound' : adjustment.bank.Sound)
    (minimum : bank.exposure.minimum = exposureMin)
    (positive : exposureMin ≤ bank.exposure.value) : bank.Inherits adjustment.bank := by
  rw [followed.bank_eq sound' minimum positive]
  exact ⟨⟨_, rfl⟩, ⟨_, rfl⟩, rfl⟩

/-- Setting a control replaces no range and no default but those of the exposure. -/
theorem SetTo.exists_value {id : ControlId} {v : Int} (setTo : bank.SetTo id v adjustment)
    {other : ControlId} (apart : ¬ (id = .verticalBlank ∧ other = .exposure)) {old : Setting}
    (present : bank.setting? other = some old) :
    ∃ value, adjustment.bank.setting? other = some { old with value } := by
  by_cases same : other = id
  · subst same
    obtain ⟨own, present', now⟩ := setTo.own
    obtain rfl := Option.some.inj (present.symm.trans present')
    exact ⟨_, now⟩
  · exact ⟨old.value, (setTo.others other same apart).trans present⟩

theorem SetTo.inherits {id : ControlId} {v : Int} (setTo : bank.SetTo id v adjustment)
    (sound' : adjustment.bank.Sound) : bank.Inherits adjustment.bank := by
  obtain ⟨link, linked⟩ := @SetTo.exists_value _ _ _ _ setTo .linkFrequency (by simp) _ rfl
  obtain ⟨rate, rated⟩ := @SetTo.exists_value _ _ _ _ setTo .pixelRate (by simp) _ rfl
  refine ⟨⟨link, Option.some.inj linked⟩, ⟨rate, Option.some.inj rated⟩, ?_⟩
  by_cases blank : id = .verticalBlank
  · rw [setTo.exposure blank]
    rfl
  · obtain ⟨value, exposed⟩ := @SetTo.exists_value _ _ _ _ setTo .exposure (by simp [blank]) _ rfl
    have kept := congrArg Setting.default (Option.some.inj exposed)
    have inside := sound'.default_le
    rw [kept] at inside ⊢
    exact (Int.min_eq_left inside).symm

/-- Whatever is requested of a control, a refused request included. -/
theorem Sound.inherits_of_set (sound : bank.Sound) {id : ControlId} {v : Int}
    (result : bank.change (.set id v) = .ok bank') : bank.Inherits bank' := by
  obtain ⟨outcome, requested, result⟩ := Checked.bind_eq_ok_iff.1 result
  cases result
  cases outcome with
  | error e => exact sound.inherits_refl
  | ok adjustment => exact (sound.setTo_of_set requested).inherits (sound.of_set requested)

/-- One change, whichever it is. -/
theorem Sound.inherits_of_change (sound : bank.Sound) {change : ControlChange}
    (admissible : change.Admissible) (result : bank.change change = .ok bank') :
    bank.Inherits bank' := by
  cases change with
  | set id v => exact sound.inherits_of_set result
  | setRaw cid v =>
    cases found : ControlId.ofCid? cid with
    | none =>
      simp only [ControlBank.change, setRaw, found] at result
      cases result
      exact sound.inherits_refl
    | some id =>
      have named : bank.change (.setRaw cid v) = bank.change (.set id v) := by
        simp only [ControlBank.change, setRaw, found]
      exact sound.inherits_of_set (named.symm.trans result)
  | selectMode mode =>
    obtain ⟨adjustment, selected, result⟩ := Checked.bind_eq_ok_iff.1 result
    cases result
    obtain ⟨fresh, created, -, -⟩ := ofMode_ok admissible false
    have exposure := sound.exposure _ rfl
    have followed := followed_of_selectMode admissible created selected
    -- of what is inherited, nothing was replaced before the exposure follows
    obtain ⟨⟨link, linked⟩, ⟨rate, rated⟩, exposed⟩ := followed.inherits
      (sound.of_selectMode admissible selected) exposure.minimum exposure.value.1
    exact ⟨⟨link, linked⟩, ⟨rate, rated⟩, exposed⟩

/-! ## §3 What a history carries over -/

/-- The default of the exposure at the beginning of a history, and the ends of the exposure in all
banks that the history passes. -/
def exposureEnds (bank : ControlBank) (changes : List ControlChange) : Set Int :=
  {n | n = bank.exposure.default ∨ ∃ passed reached, passed <+: changes ∧
    bank.changeAll passed = .ok reached ∧ n = reached.exposure.maximum}

/-- The ends that are passed after a first change are passed by the whole history. -/
theorem passed_cons {change : ControlChange} {rest : List ControlChange} {n : Int}
    (first : bank.change change = .ok bank') {passed : List ControlChange}
    {reached : ControlBank} (part : passed <+: rest)
    (result : bank'.changeAll passed = .ok reached) (same : n = reached.exposure.maximum) :
    n ∈ bank.exposureEnds (change :: rest) := by
  refine .inr ⟨change :: passed, reached, List.prefix_cons_inj change |>.2 part, ?_, same⟩
  rw [changeAll, first]
  exact result

/-- If the default is lowered to the end of the exposure in the first step, and to the least of all
ends in the steps after it, it is lowered to the least end altogether. -/
theorem Inherits.isLeast_cons (inherits : bank.Inherits bank') (sound : bank.Sound)
    {change : ControlChange} (first : bank.change change = .ok bank')
    {rest : List ControlChange} {default : Int}
    (least : IsLeast (bank'.exposureEnds rest) default) :
    IsLeast (bank.exposureEnds (change :: rest)) default := by
  obtain ⟨among, least⟩ := least
  have lowered : default ≤ min bank.exposure.default bank'.exposure.maximum := by
    rw [← inherits.exposure]
    exact least (.inl rfl)
  constructor
  · rcases among with same | ⟨passed, reached, part, result, same⟩
    · -- still the default after the first step: the old one, or the end that step led to
      rw [inherits.exposure] at same
      rcases Int.le_total bank.exposure.default bank'.exposure.maximum with below | above
      · exact .inl (same.trans (Int.min_eq_left below))
      · exact passed_cons first List.nil_prefix rfl (same.trans (Int.min_eq_right above))
    · exact passed_cons first part result same
  · rintro n (rfl | ⟨passed, reached, part, result, rfl⟩)
    · omega
    · rcases List.prefix_cons_iff.1 part with rfl | ⟨later, rfl, part'⟩
      · cases result
        have inside := sound.default_le
        omega
      · rw [changeAll, first] at result
        exact least (.inr ⟨later, reached, part', result, rfl⟩)

/-- Through a whole history, the link and its rate keep everything but their value, and the default
of the exposure sinks to the least of the ends passed. -/
theorem Sound.changeAll_inherits (sound : bank.Sound) {changes : List ControlChange}
    (admissible : ∀ change ∈ changes, change.Admissible)
    (result : bank.changeAll changes = .ok bank') :
    (∃ value, bank'.linkFrequency = { bank.linkFrequency with value }) ∧
      (∃ value, bank'.pixelRate = { bank.pixelRate with value }) ∧
      IsLeast (bank.exposureEnds changes) bank'.exposure.default := by
  induction changes generalizing bank with
  | nil =>
    cases result
    refine ⟨⟨_, rfl⟩, ⟨_, rfl⟩, .inl rfl, ?_⟩
    rintro n (rfl | ⟨passed, reached, part, reach, rfl⟩)
    · exact Int.le_refl _
    · rw [List.prefix_nil.1 part] at reach
      cases reach
      exact sound.default_le
  | cons change rest ih =>
    obtain ⟨bank₁, first, behind⟩ := Checked.bind_eq_ok_iff.1 result
    have here := admissible change List.mem_cons_self
    obtain ⟨_, first', sound₁, -, -⟩ := sound.change_ok here
    obtain rfl := Except.ok.inj (first.symm.trans first')
    have inherits := sound.inherits_of_change here first
    obtain ⟨⟨link, linked⟩, ⟨rate, rated⟩, least⟩ :=
      ih sound₁ (fun later member => admissible later (List.mem_cons_of_mem _ member)) behind
    obtain ⟨link₁, linked₁⟩ := inherits.linkFrequency
    obtain ⟨rate₁, rated₁⟩ := inherits.pixelRate
    rw [linked₁] at linked
    rw [rated₁] at rated
    exact ⟨⟨link, linked⟩, ⟨rate, rated⟩, inherits.isLeast_cons sound first least⟩

/-! ## §4 Selecting a mode -/

/-- The link and its rate have the same ranges in every mode. -/
theorem Sound.fixed_ranges (sound : bank.Sound) (sound' : bank'.Sound) :
    (bank.linkFrequency.minimum = bank'.linkFrequency.minimum ∧
      bank.linkFrequency.maximum = bank'.linkFrequency.maximum) ∧
    bank.pixelRate.minimum = bank'.pixelRate.minimum ∧
      bank.pixelRate.maximum = bank'.pixelRate.maximum := by
  have link := sound.spans .linkFrequency _ rfl
  have link' := sound'.spans .linkFrequency _ rfl
  have rate := sound.spans .pixelRate _ rfl
  have rate' := sound'.spans .pixelRate _ rfl
  exact ⟨⟨link.minimum.trans link'.minimum.symm, link.maximum.trans link'.maximum.symm⟩,
    rate.minimum.trans rate'.minimum.symm, rate.maximum.trans rate'.maximum.symm⟩

/-- A mode is selected after any history over well-formed modes. Beside the controls made from that
mode, the blanks are the same, the vertical one moved to where it was before as far as its range
goes. The link and its rate differ in their defaults, which are those of the first mode, and the
default of the exposure is the least of the ends passed from the first mode on. -/
theorem selection_inherits {mode selected : Mode} (wellFormed : mode.WellFormed)
    (wellFormed' : selected.WellFormed) (digitalGain : Bool) {changes : List ControlChange}
    (admissible : ∀ change ∈ changes, change.Admissible) :
    ∃ first bank adjustment fresh,
      ofMode mode digitalGain = .ok first ∧ first.changeAll changes = .ok bank ∧
      bank.selectMode selected = .ok adjustment ∧ ofMode selected digitalGain = .ok fresh ∧
      adjustment.bank.linkFrequency =
        { fresh.linkFrequency with default := first.linkFrequency.default } ∧
      adjustment.bank.pixelRate = { fresh.pixelRate with default := first.pixelRate.default } ∧
      adjustment.bank.horizontalBlank = fresh.horizontalBlank ∧
      adjustment.bank.verticalBlank = fresh.verticalBlank.movedTo bank.verticalBlank.value ∧
      IsLeast (first.exposureEnds (changes ++ [.selectMode selected]))
        adjustment.bank.exposure.default := by
  obtain ⟨first, created, -, sound₁⟩ := ofMode_ok wellFormed digitalGain
  obtain ⟨bank, changed, sound, -, -⟩ := sound₁.changeAll_ok admissible
  obtain ⟨adjustment, select, sound'⟩ := sound.selectMode_ok wellFormed'
  obtain ⟨fresh, made, -, soundFresh⟩ := ofMode_ok wellFormed' digitalGain
  have exposure := sound.exposure _ rfl
  have follows := (followed_of_selectMode wellFormed' made select).bank_eq sound' exposure.minimum
    exposure.value.1
  have whole : first.changeAll (changes ++ [.selectMode selected]) = .ok adjustment.bank := by
    rw [changeAll_concat changed, ControlBank.change, select]
    rfl
  have admissible' : ∀ change ∈ changes ++ [.selectMode selected], change.Admissible := by
    intro change member
    rcases List.mem_append.1 member with before | last
    · exact admissible change before
    · rw [List.mem_singleton.1 last]
      exact wellFormed'
  obtain ⟨⟨link, linked⟩, ⟨rate, rated⟩, least⟩ := sound₁.changeAll_inherits admissible' whole
  obtain ⟨linkRange, rateRange⟩ := sound'.fixed_ranges soundFresh
  refine ⟨first, bank, adjustment, fresh, created, changed, select, made, ?_, ?_, ?_, ?_, least⟩
  · exact Setting.eq_with_default linkRange (by rw [follows]; rfl) (by rw [linked])
  · exact Setting.eq_with_default rateRange (by rw [follows]; rfl) (by rw [rated])
  · rw [follows]
    rfl
  · rw [follows]
    rfl

/-- From tall frames to flat ones, which are then kept as short as they can be. -/
def flatHistory : List ControlChange :=
  [.selectMode flatMode, .set .verticalBlank 50]

/-- The tall frames are selected again after the flat ones. -/
theorem selection_of_tallMode :
    ∃ first bank adjustment fresh,
      ofMode tallMode true = .ok first ∧ first.changeAll flatHistory = .ok bank ∧
      bank.selectMode tallMode = .ok adjustment ∧ ofMode tallMode true = .ok fresh ∧
      adjustment.bank.linkFrequency =
        { fresh.linkFrequency with default := first.linkFrequency.default } ∧
      adjustment.bank.horizontalBlank = fresh.horizontalBlank ∧
      IsLeast (first.exposureEnds (flatHistory ++ [.selectMode tallMode]))
        adjustment.bank.exposure.default := by
  have admissible : ∀ change ∈ flatHistory, change.Admissible := by
    simp [flatHistory, ControlChange.Admissible, wellFormed_flatMode]
  obtain ⟨first, bank, adjustment, fresh, created, changed, select, made, link, -, blank, -,
    least⟩ := selection_inherits wellFormed_tallMode wellFormed_tallMode true admissible
  exact ⟨first, bank, adjustment, fresh, created, changed, select, made, link, blank, least⟩

/-- Binned frames are selected at once. The link then has the frequency of the binned mode and the
default of the full frame, and so it is with the rate. -/
theorem stale_defaults :
    ∃ first adjustment fresh,
      ofMode Catalog.fullFrame false = .ok first ∧
      first.selectMode Catalog.binned = .ok adjustment ∧
      ofMode Catalog.binned false = .ok fresh ∧
      adjustment.bank.linkFrequency = ⟨0, 1, 0, 1⟩ ∧ fresh.linkFrequency = ⟨0, 1, 1, 1⟩ ∧
      adjustment.bank.pixelRate = ⟨0, 480000000, 480000000, 227200000⟩ ∧
      fresh.pixelRate = ⟨0, 480000000, 227200000, 227200000⟩ :=
  ⟨_, _, _, rfl, rfl, rfl, by decide, by decide, by decide, by decide⟩

end ControlBank

end ImageSensor
