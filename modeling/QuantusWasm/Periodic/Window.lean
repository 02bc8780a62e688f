import Mathlib.Data.Nat.Log
import Mathlib.Algebra.Order.Ring.Nat
import Mathlib.Tactic.Ring

/-!
# Periodic anchors and their windows

A period and a phase select the heights congruent to the phase.  Every height
is assigned the latest selected height at or before it, its anchor, so each
selected height is the anchor of exactly the period of heights that starts
there.  When the phase can only be stored as a multiple of some step dividing
the period, the anchor of a height is that height rounded down to the step.
-/

namespace Periodic

/-- Round down to a multiple of the step. -/
def quantize (step value : Nat) : Nat :=
  value / step * step

/-- The latest height at or before `current` that is congruent to the phase;
the phase itself if there is none. -/
def anchor (period phase current : Nat) : Nat :=
  (max current phase - phase) / period * period + phase

theorem quantize_add_mod (step value : Nat) : quantize step value + value % step = value := by
  rw [quantize, Nat.mul_comm, Nat.div_add_mod]

theorem quantize_le (step value : Nat) : quantize step value ≤ value :=
  Nat.div_mul_le_self value step

theorem dvd_quantize (step value : Nat) : step ∣ quantize step value :=
  Nat.dvd_mul_left step (value / step)

@[simp]
theorem quantize_one (value : Nat) : quantize 1 value = value := by
  simp [quantize]

theorem quantize_eq_self_iff {step value : Nat} : quantize step value = value ↔ step ∣ value := by
  constructor
  · intro fixed
    rw [← fixed]
    exact dvd_quantize step value
  · intro divides
    exact Nat.div_mul_cancel divides

/-- Before the end of its period every height from a selected one on has that
one as anchor, and no later height has. -/
theorem anchor_eq_iff {period phase base height : Nat} (period_pos : 0 < period)
    (phase_le : phase ≤ base) (selected : period ∣ base - phase) (base_le : base ≤ height) :
    anchor period phase height = base ↔ height < base + period := by
  rcases selected with ⟨count, count_eq⟩
  have base_eq : base = period * count + phase := by omega
  have max_eq : max height phase = height := by omega
  have anchor_eq : anchor period phase height = (height - phase) / period * period + phase := by
    rw [anchor, max_eq]
  have split : height - phase = (height - base) + period * count := by omega
  rw [anchor_eq, split, Nat.add_mul_div_left _ _ period_pos, Nat.add_mul]
  constructor
  · intro equal
    have quotient_zero : (height - base) / period * period = 0 := by
      rw [base_eq, Nat.mul_comm period count] at equal ⊢
      omega
    have within : (height - base) / period = 0 := by
      rcases Nat.mul_eq_zero.mp quotient_zero with zero | zero
      · exact zero
      · omega
    have := (Nat.div_eq_zero_iff_lt period_pos).mp within
    omega
  · intro within
    have quotient_zero : (height - base) / period = 0 :=
      Nat.div_eq_of_lt (by omega)
    rw [quotient_zero, Nat.zero_mul, Nat.zero_add, Nat.mul_comm count period]
    exact base_eq.symm

/-- What the anchor of a height is when it lies before the height: the one
height of the period before that is congruent to the phase. -/
theorem anchor_eq_and_lt_iff {period phase base height : Nat} (phase_lt : phase < period) :
    anchor period phase height = base ∧ base < height ↔
      base % period = phase ∧ base < height ∧ height < base + period := by
  have period_pos : 0 < period := Nat.zero_lt_of_lt phase_lt
  constructor
  · rintro ⟨rfl, past⟩
    have phase_le : phase ≤ height := by
      by_contra early
      have quotient_zero : max height phase - phase = 0 := by omega
      rw [anchor, quotient_zero, Nat.zero_div, Nat.zero_mul, Nat.zero_add] at past
      omega
    refine ⟨?_, past, ?_⟩
    · rw [anchor, Nat.add_comm, Nat.add_mul_mod_self_right, Nat.mod_eq_of_lt phase_lt]
    · have whole := Nat.lt_div_mul_add period_pos (a := height - phase)
      rw [anchor, max_eq_left phase_le]
      omega
  · rintro ⟨congruent, past, within⟩
    have phase_le : phase ≤ base := by
      rw [← congruent]
      exact Nat.mod_le _ _
    have selected : period ∣ base - phase := by
      rw [← congruent]
      exact Nat.dvd_sub_mod base
    exact ⟨(anchor_eq_iff period_pos phase_le selected past.le).mpr within, past⟩

/-- The anchor of a height under its own quantized phase is that height
rounded down to the step. -/
theorem anchor_quantize {period step current : Nat} (period_pos : 0 < period)
    (step_dvd : step ∣ period) :
    anchor period (quantize step (current % period)) current = quantize step current := by
  have phase_le : quantize step (current % period) ≤ current :=
    le_trans (quantize_le _ _) (Nat.mod_le _ _)
  have mod_lt : current % period < period := Nat.mod_lt _ period_pos
  have step_le : step ≤ period := Nat.le_of_dvd period_pos step_dvd
  have step_pos : 0 < step := Nat.pos_of_dvd_of_pos step_dvd period_pos
  have remainder_lt : current % step < step := Nat.mod_lt _ step_pos
  have phase_split := quantize_add_mod step (current % period)
  rw [Nat.mod_mod_of_dvd _ step_dvd] at phase_split
  have current_split := Nat.div_add_mod current period
  have quotient_eq : (current - quantize step (current % period)) / period =
      current / period := by
    have : current - quantize step (current % period) =
        current % step + period * (current / period) := by omega
    rw [this, Nat.add_mul_div_left _ _ period_pos, Nat.div_eq_of_lt (by omega), Nat.zero_add]
  have whole_split := quantize_add_mod step current
  rw [anchor, max_eq_left phase_le, quotient_eq, Nat.mul_comm]
  omega

/-- A height is its own anchor exactly when the step divides it. -/
theorem anchor_quantize_eq_self_iff {period step current : Nat} (period_pos : 0 < period)
    (step_dvd : step ∣ period) :
    anchor period (quantize step (current % period)) current = current ↔ step ∣ current := by
  rw [anchor_quantize period_pos step_dvd, quantize_eq_self_iff]

/-- Clamping a power of two between two powers clamps its exponent. -/
theorem two_pow_clamp (low exponent high : Nat) :
    max (2 ^ low) (min (2 ^ exponent) (2 ^ high)) = 2 ^ max low (min exponent high) := by
  have monotone : Monotone fun exponent : Nat => 2 ^ exponent :=
    fun _ _ le => Nat.pow_le_pow_right (by decide) le
  rw [monotone.map_max, monotone.map_min]

/-- Dividing a power of two by `2 ^ width`, but not below one. -/
theorem max_two_pow_div (exponent width : Nat) :
    max (2 ^ exponent / 2 ^ width) 1 = 2 ^ (exponent - width) := by
  by_cases wide : width ≤ exponent
  · rw [Nat.pow_div wide (by decide)]
    exact max_eq_left (Nat.one_le_two_pow)
  · have small : 2 ^ exponent < 2 ^ width := Nat.pow_lt_pow_right (by decide) (by omega)
    rw [Nat.div_eq_of_lt small, Nat.sub_eq_zero_of_le (by omega)]
    rfl

end Periodic
