import QuantusWasm.Ext.Core
import QuantusWasm.Codec.Compact
import QuantusWasm.Periodic.Window

/-!
# Mortal eras

The era of `src/ext.rs`, in its own 64-bit arithmetic, and the windows of
natural numbers it stands for.  A window has a power of two between 4 and 65536
as its period and a phase below it in whole quantization steps.  Every era the
signer builds is that of a window, and on the era of a window no operation
wraps.
-/

namespace QuantusWasm.Ext

/-- A mortal era holds its period and its quantized phase. -/
inductive Era where
  | Immortal
  | Mortal (period phase : UInt64)
  deriving DecidableEq

/-- `u64::checked_next_power_of_two`. -/
def checkedNextPowerOfTwo (value : UInt64) : Option UInt64 :=
  if 2 ^ Nat.clog 2 value.toNat < 2 ^ 64 then
    some (UInt64.ofNat (2 ^ Nat.clog 2 value.toNat))
  else
    none

/-- `Ord::clamp`. -/
def clamp {α : Type} [LT α] [DecidableLT α] (value low high : α) : α :=
  if value < low then low else if high < value then high else value

/-- `u64::trailing_zeros`. -/
def trailingZeros (value : UInt64) : UInt32 :=
  UInt32.ofNat value.toBitVec.ctz.toNat

namespace Era

/-- Era around a block: the period rounded to a power of two and clamped, the phase
quantized. -/
def mortal (period current : UInt64) : Era :=
  let period := clamp ((checkedNextPowerOfTwo period).getD ((1 : UInt64) <<< 16)) 4
    ((1 : UInt64) <<< 16)
  let phase := current % period
  let quantizeFactor := max (period >>> 12) 1
  let quantizedPhase := phase / quantizeFactor * quantizeFactor
  Mortal period quantizedPhase

/-- The block in whose period the current block lies. -/
def birth (current : UInt64) : Era → UInt64
  | Immortal => 0
  | Mortal period phase => (max current phase - phase) / period * period + phase

/-- One byte for an immortal era, two for a mortal one. -/
def encodeTo : Era → List UInt8
  | Immortal => [0]
  | Mortal period phase =>
      let quantizeFactor := max (period >>> 12) 1
      let encoded := (clamp (trailingZeros period - 1) 1 15).toUInt16 |||
        ((phase / quantizeFactor) <<< 4).toUInt16
      Codec.littleEndian 2 encoded.toNat

/-- `birth` at a height that need not fit a machine word. -/
def birthAt (height : Nat) : Era → Nat
  | Immortal => 0
  | Mortal period phase => Periodic.anchor period.toNat phase.toNat height

end Era

/-! ## Windows -/

/-- A period and a phase the runtime can store. -/
structure Window where
  /-- The binary logarithm of the period. -/
  exponent : Nat
  phase : Nat
  exponent_ge : 2 ≤ exponent
  exponent_le : exponent ≤ 16
  phase_lt : phase < 2 ^ exponent
  /-- The phase is stored in whole steps. -/
  step_dvd : 2 ^ (exponent - 12) ∣ phase

namespace Window

/-- The period in blocks. -/
def period (window : Window) : Nat :=
  2 ^ window.exponent

/-- The quantization step of the phase. -/
def step (window : Window) : Nat :=
  2 ^ (window.exponent - 12)

/-- The sixteen bits that store a window: the exponent, less one, in the low
four and the phase, in steps, in the others. -/
def word (window : Window) : Nat :=
  window.exponent - 1 + 16 * (window.phase / window.step)

/-- The era that a window stands for. -/
def toEra (window : Window) : Era :=
  .Mortal (UInt64.ofNat window.period) (UInt64.ofNat window.phase)

/-- The binary logarithm of a requested period after rounding and clamping. -/
def exponentFor (period : Nat) : Nat :=
  max 2 (min (Nat.clog 2 period) 16)

theorem exponentFor_ge (period : Nat) : 2 ≤ exponentFor period :=
  le_max_left _ _

theorem exponentFor_le (period : Nat) : exponentFor period ≤ 16 :=
  max_le (by decide) (min_le_right _ _)

theorem step_dvd_two_pow (exponent : Nat) : 2 ^ (exponent - 12) ∣ 2 ^ exponent :=
  Nat.pow_dvd_pow 2 (Nat.sub_le _ _)

/-- The window of a requested period around a block. -/
def around (period current : Nat) : Window where
  exponent := exponentFor period
  phase := Periodic.quantize (2 ^ (exponentFor period - 12))
    (current % 2 ^ exponentFor period)
  exponent_ge := exponentFor_ge period
  exponent_le := exponentFor_le period
  phase_lt := lt_of_le_of_lt (Periodic.quantize_le _ _) (Nat.mod_lt _ (Nat.two_pow_pos _))
  step_dvd := Periodic.dvd_quantize _ _

theorem period_pos (window : Window) : 0 < window.period :=
  Nat.two_pow_pos _

theorem period_le (window : Window) : window.period ≤ 2 ^ 16 :=
  Nat.pow_le_pow_right (by decide) window.exponent_le

theorem step_pos (window : Window) : 0 < window.step :=
  Nat.two_pow_pos _

theorem phase_lt_period (window : Window) : window.phase < window.period :=
  window.phase_lt

/-- Twelve bits hold the phase in steps. -/
theorem phase_div_step_lt (window : Window) : window.phase / window.step < 2 ^ 12 := by
  rw [step, Nat.div_lt_iff_lt_mul (Nat.two_pow_pos _), ← Nat.pow_add]
  have exponent_le : window.exponent ≤ 12 + (window.exponent - 12) := by omega
  exact lt_of_lt_of_le window.phase_lt (Nat.pow_le_pow_right (by decide) exponent_le)

theorem word_lt (window : Window) : window.word < 2 ^ 16 := by
  have units_lt := window.phase_div_step_lt
  have exponent_le := window.exponent_le
  rw [word]
  omega

@[simp]
theorem toNat_period (window : Window) : (UInt64.ofNat window.period).toNat = window.period := by
  have bound := window.period_le
  rw [UInt64.toNat_ofNat_of_lt']
  exact lt_of_le_of_lt bound (by decide)

@[simp]
theorem toNat_phase (window : Window) : (UInt64.ofNat window.phase).toNat = window.phase := by
  have bound := window.period_le
  rw [UInt64.toNat_ofNat_of_lt']
  exact lt_of_lt_of_le (lt_of_lt_of_le window.phase_lt_period bound) (by decide)

end Window

/-! ## The era arithmetic on windows -/

theorem toNat_clamp {value low high : UInt64} (low_le : low.toNat ≤ high.toNat) :
    (clamp value low high).toNat = max low.toNat (min value.toNat high.toNat) := by
  unfold clamp
  split_ifs with below above
  · rw [UInt64.lt_iff_toNat_lt] at below
    omega
  · rw [UInt64.lt_iff_toNat_lt] at below above
    omega
  · rw [UInt64.lt_iff_toNat_lt] at below above
    omega

theorem clamp_eq_self {α : Type} [LT α] [DecidableLT α] {value low high : α}
    (notBelow : ¬value < low) (notAbove : ¬high < value) : clamp value low high = value := by
  rw [clamp, if_neg notBelow, if_neg notAbove]

/-- Rounding, its overflow fallback and the clamp together give the period of
the window. -/
theorem toNat_roundedPeriod (period : UInt64) :
    (clamp ((checkedNextPowerOfTwo period).getD ((1 : UInt64) <<< 16)) 4
      ((1 : UInt64) <<< 16)).toNat = 2 ^ Window.exponentFor period.toNat := by
  have shift_eq : ((1 : UInt64) <<< 16).toNat = 2 ^ 16 := by decide
  rw [toNat_clamp (by decide), shift_eq]
  by_cases fits : 2 ^ Nat.clog 2 period.toNat < 2 ^ 64
  · rw [checkedNextPowerOfTwo, if_pos fits, Option.getD_some, UInt64.toNat_ofNat_of_lt' fits]
    exact Periodic.two_pow_clamp 2 _ 16
  · have exponent_ge : 64 ≤ Nat.clog 2 period.toNat := by
      by_contra small
      exact fits (Nat.pow_lt_pow_right (by decide) (Nat.not_le.mp small))
    have exponent_eq : Window.exponentFor period.toNat = 16 := by
      rw [Window.exponentFor]
      omega
    rw [checkedNextPowerOfTwo, if_neg fits, Option.getD_none, shift_eq, exponent_eq]
    decide

theorem toNat_quantizeFactor {period : UInt64} {exponent : Nat}
    (period_eq : period.toNat = 2 ^ exponent) :
    (max (period >>> 12) 1).toNat = 2 ^ (exponent - 12) := by
  rw [UInt64.toNat_max, UInt64.toNat_shiftRight, period_eq]
  exact (congrArg (max · 1) (Nat.shiftRight_eq_div_pow _ 12)).trans
    (Periodic.max_two_pow_div exponent 12)

namespace Era

/-- The signer builds the era of the window around the block. -/
theorem mortal_eq_toEra (period current : UInt64) :
    mortal period current = (Window.around period.toNat current.toNat).toEra := by
  have period_eq := toNat_roundedPeriod period
  have factor_eq := toNat_quantizeFactor period_eq
  have bound := (Window.around period.toNat current.toNat).phase_lt_period
  rw [mortal, Window.toEra, Mortal.injEq]
  constructor
  · rw [← UInt64.toNat_inj, Window.toNat_period, period_eq]
    rfl
  · rw [← UInt64.toNat_inj, Window.toNat_phase, UInt64.toNat_mul, UInt64.toNat_div,
      UInt64.toNat_mod, factor_eq, period_eq]
    refine Nat.mod_eq_of_lt (lt_of_lt_of_le bound ?_)
    exact (Window.period_le _).trans (by decide)

/-- On the era of a window `birth` does not wrap. -/
theorem toNat_birth_toEra (window : Window) (current : UInt64) :
    (window.toEra.birth current).toNat =
      Periodic.anchor window.period window.phase current.toNat := by
  have current_lt : current.toNat < 2 ^ 64 := current.toNat_lt
  have phase_lt := window.phase_lt_period
  have period_le := window.period_le
  have difference : (max current (UInt64.ofNat window.phase) - UInt64.ofNat window.phase).toNat =
      max current.toNat window.phase - window.phase := by
    rw [UInt64.toNat_sub_of_le, UInt64.toNat_max, Window.toNat_phase]
    rw [UInt64.le_iff_toNat_le, UInt64.toNat_max, Window.toNat_phase]
    exact le_max_right _ _
  have multiple_le : (max current.toNat window.phase - window.phase) / window.period *
      window.period ≤ max current.toNat window.phase - window.phase :=
    Nat.div_mul_le_self _ _
  have product : ((max current (UInt64.ofNat window.phase) - UInt64.ofNat window.phase) /
      UInt64.ofNat window.period * UInt64.ofNat window.period).toNat =
      (max current.toNat window.phase - window.phase) / window.period * window.period := by
    rw [UInt64.toNat_mul, UInt64.toNat_div, difference, Window.toNat_period]
    exact Nat.mod_eq_of_lt (by omega)
  rw [Window.toEra, birth, UInt64.toNat_add, product, Window.toNat_phase, Periodic.anchor]
  exact Nat.mod_eq_of_lt (by omega)

theorem birthAt_toEra (window : Window) (height : Nat) :
    window.toEra.birthAt height = Periodic.anchor window.period window.phase height := by
  simp only [birthAt, Window.toEra, Window.toNat_period, Window.toNat_phase]

theorem toNat_trailingZeros_period (window : Window) :
    (trailingZeros (UInt64.ofNat window.period)).toNat = window.exponent := by
  have table : ∀ exponent ≤ 16,
      (trailingZeros (UInt64.ofNat (2 ^ exponent))).toNat = exponent := by decide +kernel
  exact table window.exponent window.exponent_le

theorem encodeTo_toEra (window : Window) :
    window.toEra.encodeTo = Codec.littleEndian 2 window.word := by
  have exponent_ge := window.exponent_ge
  have exponent_le := window.exponent_le
  have zeros_eq := toNat_trailingZeros_period window
  have units_lt := window.phase_div_step_lt
  have low : (clamp (trailingZeros (UInt64.ofNat window.period) - 1) 1 15).toUInt16.toNat =
      window.exponent - 1 := by
    have one_le : (1 : UInt32) ≤ trailingZeros (UInt64.ofNat window.period) := by
      rw [UInt32.le_iff_toNat_le, zeros_eq]
      exact le_trans (by decide) exponent_ge
    have difference : (trailingZeros (UInt64.ofNat window.period) - 1).toNat =
        window.exponent - 1 := by
      rw [UInt32.toNat_sub_of_le _ _ one_le, zeros_eq]
      rfl
    rw [UInt32.toNat_toUInt16, clamp_eq_self, difference]
    · exact Nat.mod_eq_of_lt (by omega)
    · rw [UInt32.lt_iff_toNat_lt, difference]
      exact Nat.not_lt.mpr (Nat.le_sub_of_add_le exponent_ge)
    · rw [UInt32.lt_iff_toNat_lt, difference]
      exact Nat.not_lt.mpr (Nat.sub_le_of_le_add exponent_le)
  have high : ((UInt64.ofNat window.phase / max (UInt64.ofNat window.period >>> 12) 1) <<<
      4).toUInt16.toNat = (window.phase / window.step) <<< 4 := by
    have shifted_lt : (window.phase / window.step) <<< 4 < 2 ^ 16 := by
      rw [Nat.shiftLeft_eq]
      omega
    rw [UInt64.toNat_toUInt16, UInt64.toNat_shiftLeft, UInt64.toNat_div,
      toNat_quantizeFactor window.toNat_period, Window.toNat_phase]
    change (window.phase / window.step) <<< 4 % 2 ^ 64 % 2 ^ 16 = _
    rw [Nat.mod_eq_of_lt (shifted_lt.trans (by decide)), Nat.mod_eq_of_lt shifted_lt]
  rw [Window.toEra, encodeTo, UInt16.toNat_or, low, high, Nat.or_comm,
    ← Nat.shiftLeft_add_eq_or_of_lt (by omega), Nat.shiftLeft_eq, Nat.add_comm, Nat.mul_comm,
    Window.word]

/-- The eras a runtime can store. -/
inductive WellFormed : Era → Prop
  | immortal : WellFormed Immortal
  | mortal (window : Window) : WellFormed window.toEra

theorem mortal_wellFormed (period current : UInt64) : (mortal period current).WellFormed := by
  rw [mortal_eq_toEra]
  exact .mortal _

/-- On a storable era the code's `birth` is the one on natural numbers. -/
theorem toNat_birth {era : Era} (wellFormed : era.WellFormed) (current : UInt64) :
    (era.birth current).toNat = era.birthAt current.toNat := by
  cases wellFormed with
  | immortal => rfl
  | mortal window => rw [toNat_birth_toEra, birthAt_toEra]

end Era

end QuantusWasm.Ext
