/-!
# Checked Arithmetic

Lengths, rates and register values are 32-bit words, control values are signed 64-bit numbers.
A result that does not fit its width stops the computation with a `Trap`; nothing ever wraps.

Every operation is the exact integer operation followed by one range test, so a statement about
words becomes a statement about integers by `word_eq_ok_iff` and `signed_eq_ok_iff`.

## Main statements

- `word_eq_ok_iff`: a checked word is the exact number, or there is none.
- `clamp_eq_ok`: clamping into a non-empty range gives the nearest number of the range.
- `bind_eq_ok_iff`, `traps_iff_and_exists`: when a computation has a result, and when it traps.
-/

namespace ImageSensor

/-- Why a computation has no result. -/
inductive Trap where
  | overflow
  | divisionByZero
  | indexOutOfRange
  | emptyRange
  deriving DecidableEq, Repr

/-- A computation that gives a value or traps. -/
abbrev Checked (α : Type) := Except Trap α

namespace Checked

/-! ## §1 Words -/

/-- The 32-bit word with value `n`. -/
def word (n : Int) : Checked UInt32 :=
  if 0 ≤ n ∧ n < 0x100000000 then .ok (UInt32.ofNat n.toNat) else .error .overflow

/-- Sum of two words. -/
def add (a b : UInt32) : Checked UInt32 :=
  word ((a.toNat : Int) + b.toNat)

/-- Difference of two words, never below zero. -/
def sub (a b : UInt32) : Checked UInt32 :=
  word ((a.toNat : Int) - b.toNat)

/-- Quotient of two words, rounded down. -/
def div (a b : UInt32) : Checked UInt32 :=
  if b = 0 then .error .divisionByZero else .ok (a / b)

theorem word_eq_ok_iff {n : Int} {w : UInt32} : word n = .ok w ↔ (w.toNat : Int) = n := by
  unfold word
  have hw := w.toNat_lt
  constructor
  · intro h
    split at h
    case isTrue hn =>
      cases h
      simp only [UInt32.toNat_ofNat']
      omega
    case isFalse => cases h
  · intro h
    subst h
    rw [if_pos (by omega)]
    simp

theorem add_eq_ok_iff {a b c : UInt32} : add a b = .ok c ↔ a.toNat + b.toNat = c.toNat := by
  rw [add, word_eq_ok_iff]
  omega

theorem sub_eq_ok_iff {a b c : UInt32} : sub a b = .ok c ↔ a.toNat = c.toNat + b.toNat := by
  rw [sub, word_eq_ok_iff]
  omega

theorem div_eq_ok_iff {a b c : UInt32} :
    div a b = .ok c ↔ 0 < b.toNat ∧ a.toNat / b.toNat = c.toNat := by
  have zero : b = 0 ↔ b.toNat = 0 := UInt32.toNat_inj.symm
  rw [← UInt32.toNat_div, UInt32.toNat_inj]
  unfold div
  split
  case isTrue none =>
    constructor
    · nofun
    · intro ⟨positive, _⟩
      exact absurd (zero.1 none) (Nat.ne_of_gt positive)
  case isFalse some =>
    have positive : 0 < b.toNat := Nat.pos_of_ne_zero (mt zero.2 some)
    constructor
    · intro h
      exact ⟨positive, Except.ok.inj h⟩
    · intro ⟨_, h⟩
      rw [h]

/-! ## §2 Signed values -/

/-- The signed 64-bit number with value `n`. -/
def signed (n : Int) : Checked Int :=
  if -0x8000000000000000 ≤ n ∧ n < 0x8000000000000000 then .ok n else .error .overflow

theorem signed_eq_ok_iff {n v : Int} :
    signed n = .ok v ↔ n = v ∧ -0x8000000000000000 ≤ n ∧ n < 0x8000000000000000 := by
  unfold signed
  constructor
  · intro h
    split at h
    case isTrue hn =>
      cases h
      exact ⟨rfl, hn⟩
    case isFalse => cases h
  · rintro ⟨rfl, hn⟩
    rw [if_pos hn]

/-! ## §3 Ranges -/

/-- The number of `low..high` nearest to `v`. An empty range has none. -/
def clamp (low high v : Int) : Checked Int :=
  if high < low then .error .emptyRange else .ok (max low (min v high))

theorem clamp_eq_ok {low high : Int} (h : low ≤ high) (v : Int) :
    clamp low high v = .ok (max low (min v high)) := by
  rw [clamp, if_neg (by omega)]

/-! ## §4 Results -/

variable {α β : Type}

/-- A checked sequence has a result if both parts have one. -/
theorem bind_eq_ok_iff {first : Checked α} {f : α → Checked β} {result : β} :
    (first >>= f) = .ok result ↔ ∃ middle, first = .ok middle ∧ f middle = .ok result := by
  cases first with
  | error reason => exact ⟨nofun, nofun⟩
  | ok value => exact ⟨fun h => ⟨value, rfl, h⟩, fun ⟨_, same, h⟩ => by cases same; exact h⟩

/-- The computation has no result. -/
def Traps (computation : Checked α) : Prop :=
  ∃ trap, computation = .error trap

/-- A computation whose results are good, and which has one unless a condition holds that rules
results out: it traps exactly under that condition, and otherwise gives a good result. -/
theorem traps_iff_and_exists {computation : Checked α} {fails : Prop} {good : α → Prop}
    (sound : ∀ value, computation = .ok value → ¬ fails ∧ good value)
    (complete : ¬ fails → ∃ value, computation = .ok value) :
    (computation.Traps ↔ fails) ∧ (¬ fails → ∃ value, computation = .ok value ∧ good value) := by
  refine ⟨⟨?_, ?_⟩, ?_⟩
  · rintro ⟨trap, stopped⟩
    apply Classical.byContradiction
    intro passes
    obtain ⟨value, computed⟩ := complete passes
    cases stopped.symm.trans computed
  · intro holds
    cases computation with
    | error trap => exact ⟨trap, rfl⟩
    | ok value => exact absurd holds (sound value rfl).1
  · intro passes
    obtain ⟨value, computed⟩ := complete passes
    exact ⟨value, computed, (sound value computed).2⟩

end Checked

end ImageSensor
