import QuantusWasm.Ext.Era
import QuantusWasm.Word.Exact

/-!
# The era arithmetic does not wrap

The era functions of `src/ext.rs` once more, with every operation that could
wrap, divide by zero or drop a bit replaced by the exact one.  On the eras the
signer builds both versions agree, so none of these operations ever goes wrong.
-/

namespace QuantusWasm.Ext

open Codec

namespace Era

/-- `Era::mortal` where every operation is exact. -/
def exactMortal (period current : UInt64) : Option Era := do
  let period := clamp ((checkedNextPowerOfTwo period).getD ((1 : UInt64) <<< 16)) 4
    ((1 : UInt64) <<< 16)
  let phase ← Word.rem current period
  let quantizeFactor := max (period >>> 12) 1
  let steps ← Word.div phase quantizeFactor
  let quantizedPhase ← Word.mul steps quantizeFactor
  some (Mortal period quantizedPhase)

/-- `Era::birth` where every operation is exact. -/
def exactBirth (current : UInt64) : Era → Option UInt64
  | Immortal => some 0
  | Mortal period phase => do
      let elapsed ← Word.sub (max current phase) phase
      let count ← Word.div elapsed period
      let whole ← Word.mul count period
      Word.add whole phase

/-- `Era::encode_to` where every operation is exact. -/
def exactEncodeTo : Era → Option (List UInt8)
  | Immortal => some [0]
  | Mortal period phase => do
      let quantizeFactor := max (period >>> 12) 1
      let exponent ← Word.sub (trailingZeros period) 1
      let low : UInt16 ← Word.convert (clamp exponent 1 15)
      let steps ← Word.div phase quantizeFactor
      let shifted ← Word.shiftLeft steps 4
      let high : UInt16 ← Word.convert shifted
      some (littleEndian 2 (low ||| high).toNat)

/-! ## Bounds between intermediate values -/

theorem exactMortal_eq (period current : UInt64) :
    exactMortal period current = some (mortal period current) := by
  have period_eq := toNat_roundedPeriod period
  have factor_eq := toNat_quantizeFactor period_eq
  simp only [exactMortal, mortal]
  generalize clamp ((checkedNextPowerOfTwo period).getD ((1 : UInt64) <<< 16)) 4
    ((1 : UInt64) <<< 16) = rounded at period_eq factor_eq
  have rounded_ne : rounded.toNat ≠ 0 := by
    rw [period_eq]
    exact (Nat.two_pow_pos _).ne'
  have factor_ne : (max (rounded >>> 12) 1).toNat ≠ 0 := by
    rw [factor_eq]
    exact (Nat.two_pow_pos _).ne'
  have fits : (current % rounded / max (rounded >>> 12) 1).toNat *
      (max (rounded >>> 12) 1).toNat < 2 ^ 64 := by
    rw [UInt64.toNat_div]
    exact lt_of_le_of_lt (Nat.div_mul_le_self _ _) (UInt64.toNat_lt _)
  simp only [Option.bind_eq_bind, Word.rem_eq_some rounded_ne, Option.bind_some,
    Word.div_eq_some factor_ne, Word.mul_eq_some fits]

theorem exactBirth_toEra (window : Window) (current : UInt64) :
    window.toEra.exactBirth current = some (window.toEra.birth current) := by
  have above : UInt64.ofNat window.phase ≤ max current (UInt64.ofNat window.phase) := by
    rw [UInt64.le_iff_toNat_le, UInt64.toNat_max]
    exact le_max_right _ _
  have period_ne : (UInt64.ofNat window.period).toNat ≠ 0 := by
    rw [Window.toNat_period]
    exact window.period_pos.ne'
  have elapsed := Word.sub_eq_some above
  have difference := UInt64.toNat_sub_of_le _ _ above
  rw [UInt64.toNat_max] at difference
  simp only [Window.toEra, exactBirth, birth, elapsed, Option.bind_eq_bind, Option.bind_some,
    Word.div_eq_some period_ne]
  generalize max current (UInt64.ofNat window.phase) - UInt64.ofNat window.phase = time
    at difference
  have whole_le : (time / UInt64.ofNat window.period).toNat *
      (UInt64.ofNat window.period).toNat ≤ time.toNat := by
    rw [UInt64.toNat_div]
    exact Nat.div_mul_le_self _ _
  have product_fits : (time / UInt64.ofNat window.period).toNat *
      (UInt64.ofNat window.period).toNat < 2 ^ 64 := lt_of_le_of_lt whole_le time.toNat_lt
  have product_eq : (time / UInt64.ofNat window.period * UInt64.ofNat window.period).toNat =
      (time / UInt64.ofNat window.period).toNat * (UInt64.ofNat window.period).toNat := by
    rw [UInt64.toNat_mul, Nat.mod_eq_of_lt product_fits]
  rw [Word.mul_eq_some product_fits, Option.bind_some]
  apply Word.add_eq_some
  rw [product_eq]
  have current_lt := current.toNat_lt
  have phase_lt := (UInt64.ofNat window.phase).toNat_lt
  omega

theorem exactEncodeTo_toEra (window : Window) :
    window.toEra.exactEncodeTo = some window.toEra.encodeTo := by
  have zeros_eq := toNat_trailingZeros_period window
  have one_le : (1 : UInt32) ≤ trailingZeros (UInt64.ofNat window.period) := by
    rw [UInt32.le_iff_toNat_le, zeros_eq]
    exact le_trans (by decide) window.exponent_ge
  have clamp_le : (clamp (trailingZeros (UInt64.ofNat window.period) - 1) 1 15).toNat ≤ 15 := by
    unfold clamp
    split_ifs with below aboveHigh
    · decide
    · decide
    · rw [UInt32.lt_iff_toNat_lt] at aboveHigh
      exact Nat.not_lt.mp aboveHigh
  have factor_eq := toNat_quantizeFactor window.toNat_period
  have factor_ne : (max (UInt64.ofNat window.period >>> 12) 1).toNat ≠ 0 := by
    rw [factor_eq]
    exact (Nat.two_pow_pos _).ne'
  have units_lt := window.phase_div_step_lt
  have divided := @Word.div_eq_some (UInt64.ofNat window.phase) _ factor_ne
  have steps_eq : (UInt64.ofNat window.phase / max (UInt64.ofNat window.period >>> 12) 1).toNat =
      window.phase / window.step := by
    rw [UInt64.toNat_div, factor_eq, Window.toNat_phase]
    rfl
  simp only [Window.toEra, exactEncodeTo, encodeTo]
  generalize UInt64.ofNat window.phase / max (UInt64.ofNat window.period >>> 12) 1 = steps
    at steps_eq divided ⊢
  have shifted : Word.shiftLeft steps 4 = some (steps <<< 4) := by
    apply @Word.shiftLeft_eq_some steps 4 (by decide)
    change steps.toNat * 2 ^ 4 < 2 ^ 64
    omega
  have shifted_eq : (steps <<< 4).toNat = steps.toNat * 2 ^ 4 :=
    Word.shiftLeft_eq_some_iff.mp shifted
  simp only [Option.bind_eq_bind, Word.sub_eq_some_uint32 one_le, Option.bind_some,
    Word.convert_eq_some_uint32 (lt_of_le_of_lt clamp_le (by decide)), divided, shifted]
  rw [Word.convert_eq_some (by rw [shifted_eq]; omega), Option.bind_some]

/-- The eras the signer builds are safe to compute with.  Such an era has a
power of two between 4 and 65536 as its period and below it, in whole steps and
at most at the block, its phase; and none of the operations that build it, date
it at any height or encode it goes wrong. -/
theorem mortal_arithmetic_exact (period current height : UInt64) :
    (∃ rounded phase, mortal period current = .Mortal rounded phase ∧
      (∃ exponent, 2 ≤ exponent ∧ exponent ≤ 16 ∧ rounded.toNat = 2 ^ exponent) ∧
      phase < rounded ∧ max 1 (rounded.toNat >>> 12) ∣ phase.toNat ∧ phase ≤ current) ∧
    exactMortal period current = some (mortal period current) ∧
    (mortal period current).exactBirth height = some ((mortal period current).birth height) ∧
    (mortal period current).exactEncodeTo = some (mortal period current).encodeTo := by
  refine ⟨?_, exactMortal_eq period current, ?_, ?_⟩
  · let window := Window.around period.toNat current.toNat
    refine ⟨UInt64.ofNat window.period, UInt64.ofNat window.phase,
      mortal_eq_toEra period current, ⟨window.exponent, window.exponent_ge, window.exponent_le,
      window.toNat_period⟩, ?_, ?_, ?_⟩
    · rw [UInt64.lt_iff_toNat_lt, Window.toNat_phase, Window.toNat_period]
      exact window.phase_lt_period
    · have step_eq : max 1 (window.period >>> 12) = window.step := by
        rw [Nat.shiftRight_eq_div_pow, max_comm]
        exact Periodic.max_two_pow_div window.exponent 12
      rw [Window.toNat_period, Window.toNat_phase, step_eq]
      exact window.step_dvd
    · rw [UInt64.le_iff_toNat_le, Window.toNat_phase]
      exact (Periodic.quantize_le _ _).trans (Nat.mod_le _ _)
  · rw [mortal_eq_toEra, exactBirth_toEra]
  · rw [mortal_eq_toEra, exactEncodeTo_toEra]

end Era

end QuantusWasm.Ext
