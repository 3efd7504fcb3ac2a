import Mathlib.Algebra.Order.Floor.Div
import Mathlib.Algebra.Order.Floor.Semiring
import Mathlib.Data.Rat.Floor
import ImageSensor.Proofs.Power.Sequence

/-!
# The Settle Delay Is Never Too Short

The sensor counts clock cycles before it can be accessed, and the driver waits in whole
microseconds. The delay is computed from the clock in whole megahertz, so it is rounded twice: the
clock goes down, which makes the delay longer, and the quotient goes up. Both errors are on the safe
side, and together they never more than double the delay.

## Main statements

- `exactDelay_le_iff`: the exact delay is the least one into which all the cycles fit.
- `settleDelay_eq_ok_iff`, `settleDelay_le_iff`: when there is a computed delay, and which.
- `settleDelay_long_enough`: it is long enough, at most twice the exact one, and exact for a clock
  of whole megahertz.
- `settles_settleTime`: so the sensor has settled when the sequencer has powered it up.
-/

namespace ImageSensor

variable {cycles hz delay : UInt32}

/-! ## §1 The exact delay -/

/-- The time that `cycles` cycles of a clock at `hz` take, in microseconds, rounded up. -/
def exactDelay (cycles hz : UInt32) : ℕ :=
  ⌈(cycles.toNat * 1000000 : ℚ) / hz.toNat⌉₊

/-- The exact delay is the least one into which all the cycles fit. -/
theorem exactDelay_le_iff (running : 0 < hz.toNat) (n : ℕ) :
    exactDelay cycles hz ≤ n ↔ cycles.toNat * 1000000 ≤ n * hz.toNat := by
  have positive : (0 : ℚ) < hz.toNat := Nat.cast_pos.2 running
  rw [exactDelay, Nat.ceil_le, div_le_iff₀ positive]
  exact_mod_cast Iff.rfl

/-! ## §2 The computed delay -/

/-- A delay is computed if the clock runs at a megahertz or more and the sum of the cycles and the
whole megahertz is a word. It is the quotient of the two, rounded up. -/
theorem settleDelay_eq_ok_iff :
    settleDelay cycles hz = .ok delay ↔
      (1000000 ≤ hz.toNat ∧ cycles.toNat + hz.toNat / 1000000 < UInt32.size) ∧
        cycles.toNat ⌈/⌉ (hz.toNat / 1000000) = delay.toNat := by
  have megahertz : (hz / 1000000).toNat = hz.toNat / 1000000 := UInt32.toNat_div hz 1000000
  rw [Nat.ceilDiv_eq_add_pred_div]
  simp only [settleDelay, Checked.bind_eq_ok_iff, Checked.add_eq_ok_iff, Checked.sub_eq_ok_iff,
    Checked.div_eq_ok_iff, megahertz, UInt32.toNat_one]
  constructor
  · rintro ⟨sum, added, raised, lowered, positive, quotient⟩
    have small := sum.toNat_lt_size
    have same : cycles.toNat + hz.toNat / 1000000 - 1 = raised.toNat := by omega
    exact ⟨⟨by omega, by omega⟩, by rw [same, quotient]⟩
  · rintro ⟨⟨running, fits⟩, quotient⟩
    -- the sum is a word, and so is what is left of it without the one
    refine ⟨.ofNat (cycles.toNat + hz.toNat / 1000000), (UInt32.toNat_ofNat_of_lt' fits).symm,
      .ofNat (cycles.toNat + hz.toNat / 1000000 - 1), ?_, by omega, ?_⟩
    · rw [UInt32.toNat_ofNat_of_lt' fits, UInt32.toNat_ofNat_of_lt' (by omega)]
      omega
    · rw [UInt32.toNat_ofNat_of_lt' (by omega)]
      exact quotient

/-- The computed delay is the least one into which all the cycles of the lowered clock fit. -/
theorem settleDelay_le_iff (computed : settleDelay cycles hz = .ok delay) (n : ℕ) :
    delay.toNat ≤ n ↔ cycles.toNat ≤ hz.toNat / 1000000 * n := by
  obtain ⟨⟨running, -⟩, rounded⟩ := settleDelay_eq_ok_iff.1 computed
  have megahertz : 0 < hz.toNat / 1000000 := by omega
  rw [← rounded, ceilDiv_le_iff_le_mul megahertz]

/-- The delay is a word, as it is no larger than the number of cycles. -/
theorem exists_settleDelay (running : 1000000 ≤ hz.toNat)
    (fits : cycles.toNat + hz.toNat / 1000000 < UInt32.size) :
    ∃ delay, settleDelay cycles hz = .ok delay := by
  have megahertz : 0 < hz.toNat / 1000000 := by omega
  have least : cycles.toNat ⌈/⌉ (hz.toNat / 1000000) ≤ cycles.toNat :=
    (ceilDiv_le_iff_le_mul megahertz).2 (Nat.le_mul_of_pos_left _ megahertz)
  refine ⟨.ofNat (cycles.toNat ⌈/⌉ (hz.toNat / 1000000)),
    settleDelay_eq_ok_iff.2 ⟨⟨running, fits⟩, ?_⟩⟩
  exact (UInt32.toNat_ofNat_of_lt' (lt_of_le_of_lt least cycles.toNat_lt)).symm

/-! ## §3 The two compared -/

/-- A delay in microseconds gives a sensor at `hz` the cycles it needs, without undue waiting. -/
structure Settles (cycles hz delay : UInt32) : Prop where
  /-- That many cycles fit into the delay. -/
  enough : cycles.toNat * 1000000 ≤ delay.toNat * hz.toNat
  /-- Rounding does not more than double the delay. -/
  le_double : delay.toNat ≤ 2 * exactDelay cycles hz
  /-- With a clock of whole megahertz, only the quotient is rounded. -/
  eq_exact : 1000000 ∣ hz.toNat → delay.toNat = exactDelay cycles hz

theorem settles_of_settleDelay (computed : settleDelay cycles hz = .ok delay) :
    Settles cycles hz delay := by
  obtain ⟨⟨running, -⟩, -⟩ := settleDelay_eq_ok_iff.1 computed
  have delay_le := settleDelay_le_iff computed
  have exact_le (n : ℕ) : exactDelay cycles hz ≤ n ↔ cycles.toNat * 1000000 ≤ n * hz.toNat :=
    exactDelay_le_iff (by omega) n
  constructor
  case enough =>
    calc cycles.toNat * 1000000
        ≤ hz.toNat / 1000000 * delay.toNat * 1000000 :=
          Nat.mul_le_mul_right _ ((delay_le _).1 le_rfl)
      _ = delay.toNat * (hz.toNat / 1000000 * 1000000) := by ring
      _ ≤ delay.toNat * hz.toNat := Nat.mul_le_mul_left _ (Nat.div_mul_le_self _ _)
  case le_double =>
    -- from a megahertz on, what is dropped from the clock is less than what is kept
    have kept : hz.toNat ≤ 2 * (hz.toNat / 1000000 * 1000000) := by omega
    have fit : cycles.toNat * 1000000 ≤
        hz.toNat / 1000000 * (2 * exactDelay cycles hz) * 1000000 :=
      calc cycles.toNat * 1000000
          ≤ exactDelay cycles hz * hz.toNat := (exact_le _).1 le_rfl
        _ ≤ exactDelay cycles hz * (2 * (hz.toNat / 1000000 * 1000000)) :=
          Nat.mul_le_mul_left _ kept
        _ = hz.toNat / 1000000 * (2 * exactDelay cycles hz) * 1000000 := by ring
    exact (delay_le _).2 (Nat.le_of_mul_le_mul_right fit (by decide))
  case eq_exact =>
    intro whole
    -- both are the least of the same delays
    apply eq_of_forall_ge_iff
    intro n
    have scaled : n * hz.toNat = hz.toNat / 1000000 * n * 1000000 := by
      rw [Nat.mul_right_comm, Nat.div_mul_cancel whole, Nat.mul_comm]
    rw [delay_le, exact_le, scaled, Nat.mul_le_mul_right_iff (by decide)]

/-- What the sequencer waits for at the end of powering up lets the sensor settle. -/
theorem settles_settleTime : Settles settleCycles referenceClock settleTime :=
  settles_of_settleDelay settleDelay_eq_ok

/-- No delay is computed exactly if the clock runs below a megahertz or the sum of the cycles and
the whole megahertz is no word. Otherwise there is one, and it is long enough for all the cycles, no
more than twice the exact one, and exact for a clock of whole megahertz. -/
theorem settleDelay_long_enough (cycles hz : UInt32) :
    ((settleDelay cycles hz).Traps ↔
      hz.toNat < 1000000 ∨ UInt32.size ≤ cycles.toNat + hz.toNat / 1000000) ∧
    (¬ (hz.toNat < 1000000 ∨ UInt32.size ≤ cycles.toNat + hz.toNat / 1000000) →
      ∃ delay, settleDelay cycles hz = .ok delay ∧ Settles cycles hz delay) := by
  apply Checked.traps_iff_and_exists
  · intro delay computed
    obtain ⟨⟨running, fits⟩, -⟩ := settleDelay_eq_ok_iff.1 computed
    exact ⟨by omega, settles_of_settleDelay computed⟩
  · intro passes
    exact exists_settleDelay (by omega) (by omega)

/-- A clock just below two megahertz is taken for one of one megahertz, and the delay is all but
twice the exact one. With the largest number of cycles there is no delay. -/
theorem long_enough_uneven_clock :
    ¬ ((1999999 : UInt32).toNat < 1000000 ∨
        UInt32.size ≤ (1000000 : UInt32).toNat + (1999999 : UInt32).toNat / 1000000) ∧
      settleDelay 1000000 1999999 = .ok 1000000 ∧ Settles 1000000 1999999 1000000 ∧
      exactDelay 1000000 1999999 = 500001 ∧ (settleDelay 0xFFFFFFFF 1999999).Traps := by
  have passes : ¬ ((1999999 : UInt32).toNat < 1000000 ∨
      UInt32.size ≤ (1000000 : UInt32).toNat + (1999999 : UInt32).toNat / 1000000) := by decide
  obtain ⟨delay, computed, settles⟩ := (settleDelay_long_enough 1000000 1999999).2 passes
  obtain rfl : delay = 1000000 :=
    UInt32.toNat_inj.1 ((settleDelay_eq_ok_iff.1 computed).2.symm.trans (by decide))
  refine ⟨passes, computed, settles, ?_, (settleDelay_long_enough _ _).1.2 (.inr (by decide))⟩
  apply eq_of_forall_ge_iff
  intro n
  rw [exactDelay_le_iff (by decide)]
  show 1000000 * 1000000 ≤ n * 1999999 ↔ 500001 ≤ n
  omega

end ImageSensor
