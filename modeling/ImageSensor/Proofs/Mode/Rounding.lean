import Mathlib.Algebra.Order.Round
import Mathlib.Data.Rat.Floor
import Mathlib.Order.Bounds.Defs
import Mathlib.Tactic.Linarith
import ImageSensor.Catalog

/-!
# Rounding in the Numbers of a Mode

Two of the numbers that follow from a mode are rounded. The frame rate goes to the closest integer,
and a half goes up. The margin in front of the active area goes down to a multiple of four pixels,
so the area is centred only as far as that allows. A mode may be given with numbers for which the
one or the other does not exist.

## Main statements

- `FrameInterval.round_rate`: what is computed is the exact rate, rounded.
- `FrameInterval.framesPerSecond_closest`: when there is a frame rate, and that none is closer.
- `centredStart_eq_ok_iff`, `centredSpan_of_centredStart`: where a centred span starts, and that it
  is centred.
- `Mode.cropBounds_centred`: the active area, across and down.
-/

namespace ImageSensor

/-! ## §1 Frame rates -/

/-- Of two integers that are equally close, rounding takes the larger one. -/
theorem le_round_of_abs_sub_eq {x : ℚ} {n : ℤ} (tie : |x - n| = |x - round x|) : n ≤ round x := by
  by_contra! larger
  -- what is rounded is less than half above the result, so a larger integer is further away
  have next : (round x : ℚ) + 1 ≤ n := by exact_mod_cast larger
  have below : x < round x + 1 / 2 := (round_eq_iff.1 rfl).2
  have half : |x - n| ≤ 1 / 2 := tie ▸ abs_sub_round x
  have above : -(1 / 2) ≤ x - n := (abs_le.1 half).1
  linarith

namespace FrameInterval

variable {interval : FrameInterval} {frames : UInt32}

/-- The exact number of frames per second. -/
def rate (interval : FrameInterval) : ℚ :=
  interval.denominator.toNat / interval.numerator.toNat

/-- There is a frame rate if the interval is not zero and half the divisor can be added to the
dividend. It is the quotient, rounded down after that addition. -/
theorem framesPerSecond_eq_ok_iff :
    interval.framesPerSecond = .ok frames ↔
      (0 < interval.numerator.toNat ∧
        interval.denominator.toNat + interval.numerator.toNat / 2 < UInt32.size) ∧
      (interval.denominator.toNat + interval.numerator.toNat / 2) / interval.numerator.toNat =
        frames.toNat := by
  have half : (interval.numerator / 2).toNat = interval.numerator.toNat / 2 :=
    UInt32.toNat_div interval.numerator 2
  simp only [framesPerSecond, Checked.bind_eq_ok_iff, Checked.add_eq_ok_iff,
    Checked.div_eq_ok_iff, half]
  constructor
  · rintro ⟨sum, added, positive, quotient⟩
    have small := sum.toNat_lt_size
    rw [added]
    exact ⟨⟨positive, small⟩, quotient⟩
  · rintro ⟨⟨positive, fits⟩, quotient⟩
    refine ⟨.ofNat (interval.denominator.toNat + interval.numerator.toNat / 2), ?_, positive, ?_⟩
    · exact (UInt32.toNat_ofNat_of_lt' fits).symm
    · rw [UInt32.toNat_ofNat_of_lt' fits]
      exact quotient

theorem exists_framesPerSecond (positive : 0 < interval.numerator.toNat)
    (fits : interval.denominator.toNat + interval.numerator.toNat / 2 < UInt32.size) :
    ∃ frames, interval.framesPerSecond = .ok frames := by
  have small := lt_of_le_of_lt (Nat.div_le_self _ interval.numerator.toNat) fits
  exact ⟨.ofNat _, framesPerSecond_eq_ok_iff.2
    ⟨⟨positive, fits⟩, (UInt32.toNat_ofNat_of_lt' small).symm⟩⟩

/-- The frames lie less than half a frame below the rate, and at most half a frame above. -/
theorem half_open_of_framesPerSecond (computed : interval.framesPerSecond = .ok frames) :
    2 * ((frames.toNat : ℤ) * interval.numerator.toNat) ≤
        2 * interval.denominator.toNat + interval.numerator.toNat ∧
      2 * (interval.denominator.toNat : ℤ) <
        2 * (frames.toNat * interval.numerator.toNat) + interval.numerator.toNat := by
  obtain ⟨⟨positive, -⟩, quotient⟩ := framesPerSecond_eq_ok_iff.1 computed
  have parts := Nat.div_add_mod' (interval.denominator.toNat + interval.numerator.toNat / 2)
    interval.numerator.toNat
  have rest := Nat.mod_lt (interval.denominator.toNat + interval.numerator.toNat / 2) positive
  rw [quotient] at parts
  -- an odd divisor has no exact half, but then no rate lies half way between two numbers either
  constructor
  · omega
  · omega

/-- What is computed is the rate rounded to the nearest integer, a half upwards. -/
theorem round_rate (computed : interval.framesPerSecond = .ok frames) :
    round interval.rate = (frames.toNat : ℤ) := by
  obtain ⟨⟨positive, -⟩, -⟩ := framesPerSecond_eq_ok_iff.1 computed
  obtain ⟨above, below⟩ := half_open_of_framesPerSecond computed
  have divisor : (0 : ℚ) < interval.numerator.toNat := Nat.cast_pos.2 positive
  have above : 2 * (frames.toNat * interval.numerator.toNat : ℚ) ≤
      2 * interval.denominator.toNat + interval.numerator.toNat := by exact_mod_cast above
  have below : 2 * (interval.denominator.toNat : ℚ) <
      2 * (frames.toNat * interval.numerator.toNat) + interval.numerator.toNat := by
    exact_mod_cast below
  rw [round_eq_iff, rate, Set.mem_Ico, le_div_iff₀ divisor, div_lt_iff₀ divisor]
  push_cast
  constructor
  · linarith
  · linarith

/-- A number of frames per second is the closest to the rate, the larger one of two. -/
structure Closest (interval : FrameInterval) (frames : ℤ) : Prop where
  /-- The frames are off by half the divisor at most. -/
  near : 2 * |frames * interval.numerator.toNat - interval.denominator.toNat| ≤
    (interval.numerator.toNat : ℤ)
  /-- No other number is closer. -/
  least : ∀ other : ℤ, |interval.rate - frames| ≤ |interval.rate - other|
  /-- Of two that are equally close it is the larger one. -/
  larger : ∀ other : ℤ, |interval.rate - other| = |interval.rate - frames| → other ≤ frames

theorem closest_of_framesPerSecond (computed : interval.framesPerSecond = .ok frames) :
    interval.Closest frames.toNat := by
  constructor
  case near =>
    obtain ⟨above, below⟩ := half_open_of_framesPerSecond computed
    rcases abs_cases ((frames.toNat : ℤ) * interval.numerator.toNat - interval.denominator.toNat)
      with ⟨same, _⟩ | ⟨same, _⟩
    · rw [same]
      linarith
    · rw [same]
      linarith
  case least =>
    rw [← round_rate computed]
    exact round_le interval.rate
  case larger =>
    rw [← round_rate computed]
    intro other tie
    exact le_round_of_abs_sub_eq tie

/-- No frame rate exists exactly if the interval is zero or half the divisor does not fit on top of
the dividend. Otherwise there is one, and it is the closest to the rate. -/
theorem framesPerSecond_closest (interval : FrameInterval) :
    (interval.framesPerSecond.Traps ↔
      interval.numerator.toNat = 0 ∨
        UInt32.size ≤ interval.denominator.toNat + interval.numerator.toNat / 2) ∧
    (¬ (interval.numerator.toNat = 0 ∨
        UInt32.size ≤ interval.denominator.toNat + interval.numerator.toNat / 2) →
      ∃ frames, interval.framesPerSecond = .ok frames ∧ interval.Closest frames.toNat) := by
  apply Checked.traps_iff_and_exists
  · intro frames computed
    obtain ⟨⟨positive, fits⟩, -⟩ := framesPerSecond_eq_ok_iff.1 computed
    exact ⟨by omega, closest_of_framesPerSecond computed⟩
  · intro passes
    exact exists_framesPerSecond (by omega) (by omega)

/-- Two and a half frames per second are three. An interval of two seconds for the largest number of
frames has no frame rate, although that would be a word. -/
theorem closest_half_frame :
    ¬ ((10 : UInt32).toNat = 0 ∨
        UInt32.size ≤ (25 : UInt32).toNat + (10 : UInt32).toNat / 2) ∧
      framesPerSecond ⟨10, 25⟩ = .ok 3 ∧ Closest ⟨10, 25⟩ 3 ∧
      |rate ⟨10, 25⟩ - 2| = |rate ⟨10, 25⟩ - 3| ∧ (framesPerSecond ⟨2, 0xFFFFFFFF⟩).Traps := by
  have passes : ¬ ((10 : UInt32).toNat = 0 ∨
      UInt32.size ≤ (25 : UInt32).toNat + (10 : UInt32).toNat / 2) := by decide
  obtain ⟨frames, computed, closest⟩ := (framesPerSecond_closest ⟨10, 25⟩).2 passes
  obtain rfl : frames = 3 :=
    UInt32.toNat_inj.1 ((framesPerSecond_eq_ok_iff.1 computed).2.symm.trans (by decide))
  have between : rate ⟨10, 25⟩ = 5 / 2 := by
    show ((25 : ℕ) : ℚ) / (10 : ℕ) = 5 / 2
    norm_num
  refine ⟨passes, computed, closest, ?_, (framesPerSecond_closest _).1.2 (.inr (by decide))⟩
  rw [between]
  norm_num

end FrameInterval

/-! ## §2 Centred spans -/

/-- A span of `active` out of `total` pixels that starts at `start` is centred as far as multiples
of four pixels allow. -/
structure CentredSpan (total active start : ℤ) : Prop where
  inside : 0 ≤ start ∧ start + active ≤ total
  aligned : 4 ∣ start
  /-- The margin behind the span is not the smaller one, and less than eight pixels larger. -/
  balanced : 0 ≤ total - (start + active) - start ∧ total - (start + active) - start ≤ 7
  /-- The margin in front is the largest one that is aligned and at most half of both. -/
  greatest : IsGreatest {margin : ℤ | 4 ∣ margin ∧ 2 * margin ≤ total - active} start

variable {total active start : UInt32}

/-- A centred span exists if it fits. Nothing wraps on the way to its start. -/
theorem centredStart_eq_ok_iff :
    centredStart total active = .ok start ↔
      active.toNat ≤ total.toNat ∧ (total.toNat - active.toNat) / 2 / 4 * 4 = start.toNat := by
  have lowered (margin : UInt32) : (margin / 2 / 4 * 4).toNat = margin.toNat / 2 / 4 * 4 := by
    have small := margin.toNat_lt
    rw [UInt32.toNat_mul, UInt32.toNat_div, UInt32.toNat_div]
    show margin.toNat / 2 / 4 * 4 % 2 ^ 32 = _
    omega
  simp only [centredStart, Checked.bind_eq_ok_iff, Checked.sub_eq_ok_iff, pure, Except.pure,
    Except.ok.injEq, ← UInt32.toNat_inj, lowered]
  constructor
  · rintro ⟨margin, parts, lower⟩
    have difference : total.toNat - active.toNat = margin.toNat := by omega
    exact ⟨by omega, by rw [difference, lower]⟩
  · rintro ⟨fits, lower⟩
    have difference : (total - active).toNat = total.toNat - active.toNat :=
      UInt32.toNat_sub_of_le _ _ (UInt32.le_iff_toNat_le.2 fits)
    exact ⟨total - active, by omega, by rw [difference, lower]⟩

theorem exists_centredStart (fits : active.toNat ≤ total.toNat) :
    ∃ start, centredStart total active = .ok start := by
  have small := total.toNat_lt
  refine ⟨.ofNat _, centredStart_eq_ok_iff.2 ⟨fits, (UInt32.toNat_ofNat_of_lt' ?_).symm⟩⟩
  show _ < 2 ^ 32
  omega

theorem centredSpan_of_centredStart (computed : centredStart total active = .ok start) :
    CentredSpan total.toNat active.toNat start.toNat := by
  obtain ⟨fits, lower⟩ := centredStart_eq_ok_iff.1 computed
  have aligned : (4 : ℤ) ∣ start.toNat := by omega
  have half : 2 * (start.toNat : ℤ) ≤ total.toNat - active.toNat := by omega
  refine ⟨by omega, aligned, ⟨by omega, by omega⟩, ⟨aligned, half⟩, ?_⟩
  -- the next multiple of four is more than half of the margins
  rintro margin ⟨aligned', half'⟩
  omega

/-! ## §3 The active area -/

namespace Mode

variable {mode : Mode} {area : Rectangle}

/-- An area is the active one of a mode: it has its size, and is centred across and down. -/
structure Crops (mode : Mode) (area : Rectangle) : Prop where
  width : area.width = mode.cropWidth
  height : area.height = mode.cropHeight
  across : CentredSpan mode.width.toNat mode.cropWidth.toNat area.left.toNat
  down : CentredSpan mode.height.toNat mode.cropHeight.toNat area.top.toNat

theorem cropBounds_eq_ok_iff :
    mode.cropBounds = .ok area ↔
      ∃ left, centredStart mode.width mode.cropWidth = .ok left ∧
        ∃ top, centredStart mode.height mode.cropHeight = .ok top ∧
          (⟨left, top, mode.cropWidth, mode.cropHeight⟩ : Rectangle) = area := by
  simp only [cropBounds, Checked.bind_eq_ok_iff, pure, Except.pure, Except.ok.injEq]

theorem fits_of_cropBounds (computed : mode.cropBounds = .ok area) :
    mode.cropWidth.toNat ≤ mode.width.toNat ∧ mode.cropHeight.toNat ≤ mode.height.toNat := by
  obtain ⟨left, across, top, down, -⟩ := cropBounds_eq_ok_iff.1 computed
  exact ⟨(centredStart_eq_ok_iff.1 across).1, (centredStart_eq_ok_iff.1 down).1⟩

theorem exists_cropBounds (across : mode.cropWidth.toNat ≤ mode.width.toNat)
    (down : mode.cropHeight.toNat ≤ mode.height.toNat) :
    ∃ area, mode.cropBounds = .ok area := by
  obtain ⟨left, across⟩ := exists_centredStart across
  obtain ⟨top, down⟩ := exists_centredStart down
  exact ⟨_, cropBounds_eq_ok_iff.2 ⟨left, across, top, down, rfl⟩⟩

theorem crops_of_cropBounds (computed : mode.cropBounds = .ok area) : mode.Crops area := by
  obtain ⟨left, across, top, down, rfl⟩ := cropBounds_eq_ok_iff.1 computed
  exact ⟨rfl, rfl, centredSpan_of_centredStart across, centredSpan_of_centredStart down⟩

/-- A mode has no active area exactly if that is larger than the mode, across or down. Otherwise it
has one of that size, inside the mode, aligned to four pixels and centred as far as that allows. -/
theorem cropBounds_centred (mode : Mode) :
    (mode.cropBounds.Traps ↔
      mode.width.toNat < mode.cropWidth.toNat ∨ mode.height.toNat < mode.cropHeight.toNat) ∧
    (¬ (mode.width.toNat < mode.cropWidth.toNat ∨ mode.height.toNat < mode.cropHeight.toNat) →
      ∃ area, mode.cropBounds = .ok area ∧ mode.Crops area) := by
  apply Checked.traps_iff_and_exists
  · intro area computed
    obtain ⟨across, down⟩ := fits_of_cropBounds computed
    exact ⟨by omega, crops_of_cropBounds computed⟩
  · intro passes
    exact exists_cropBounds (by omega) (by omega)

/-- A full frame with an active area of odd size. -/
def oddArea : Mode :=
  { Catalog.fullFrame with cropWidth := 4201, cropHeight := 3101 }

/-- Seven columns cannot be split, so all of them are behind the active area; of 19 lines, eight are
in front and eleven behind. An area of one column more than the mode does not exist. -/
theorem cropBounds_centred_oddArea :
    ¬ (oddArea.width.toNat < oddArea.cropWidth.toNat ∨
        oddArea.height.toNat < oddArea.cropHeight.toNat) ∧
      oddArea.cropBounds = .ok ⟨0, 8, 4201, 3101⟩ ∧ oddArea.Crops ⟨0, 8, 4201, 3101⟩ ∧
      (cropBounds { oddArea with cropWidth := 4209 }).Traps := by
  have passes : ¬ (oddArea.width.toNat < oddArea.cropWidth.toNat ∨
      oddArea.height.toNat < oddArea.cropHeight.toNat) := by decide
  obtain ⟨area, computed, crops⟩ := (cropBounds_centred oddArea).2 passes
  obtain rfl : area = ⟨0, 8, 4201, 3101⟩ := Except.ok.inj (computed.symm.trans rfl)
  exact ⟨passes, computed, crops, (cropBounds_centred _).1.2 (.inl (by decide))⟩

end Mode

end ImageSensor
