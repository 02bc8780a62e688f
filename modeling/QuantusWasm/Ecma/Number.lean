import QuantusWasm.Ecma.Text
import Mathlib.Data.Nat.Log
import Mathlib.Algebra.Order.Field.Power
import Mathlib.Data.Rat.Cast.Order
import Mathlib.Tactic.FieldSimp
import Mathlib.Tactic.Positivity
import Mathlib.Tactic.Ring
import Mathlib.Tactic.NormNum

/-!
# ECMAScript numbers

A `Number` is an IEEE 754 binary64 value.  A finite value is kept as its sign,
significand and exponent, so that every double is one value of the type and
negative zero differs from zero.  The operations are those the language
defines: testing for integers, comparison with zero, the modular conversion to
32 bits, rounding a bigint and printing an integer.
-/

namespace Ecma

/-- A finite binary64 value `± significand * 2 ^ exponent` in normal form. -/
@[ext]
structure Binary64 where
  negative : Bool
  significand : Nat
  exponent : Int
  significand_lt : significand < 2 ^ 53
  exponent_ge : -1074 ≤ exponent
  exponent_le : exponent ≤ 971
  normalized : exponent = -1074 ∨ 2 ^ 52 ≤ significand
  deriving DecidableEq

namespace Binary64

/-- The rational number a finite value stands for. -/
def value (double : Binary64) : ℚ :=
  (if double.negative then -1 else 1) * double.significand * 2 ^ double.exponent

/-- The magnitude without its fraction. -/
def floorMagnitude (double : Binary64) : Nat :=
  if 0 ≤ double.exponent then
    double.significand * 2 ^ double.exponent.toNat
  else
    double.significand / 2 ^ (-double.exponent).toNat

/-- The value without its fraction. -/
def truncate (double : Binary64) : Int :=
  if double.negative then -(double.floorMagnitude : Int) else double.floorMagnitude

/-- No fraction is left after the binary point. -/
def IsIntegral (double : Binary64) : Prop :=
  0 ≤ double.exponent ∨ double.significand % 2 ^ (-double.exponent).toNat = 0

instance (double : Binary64) : Decidable double.IsIntegral :=
  inferInstanceAs (Decidable (_ ∨ _))

/-- An integral magnitude is the significand scaled by the exponent. -/
theorem magnitude_eq_floorMagnitude {double : Binary64} (integral : double.IsIntegral) :
    (double.significand : ℚ) * 2 ^ double.exponent = double.floorMagnitude := by
  by_cases nonneg : 0 ≤ double.exponent
  · rcases Int.eq_ofNat_of_zero_le nonneg with ⟨shift, shift_eq⟩
    simp [floorMagnitude, shift_eq]
  · rcases Int.eq_ofNat_of_zero_le (a := -double.exponent) (by omega) with ⟨shift, shift_eq⟩
    have exponent_eq : double.exponent = -(shift : Int) := by omega
    have divides : double.significand % 2 ^ shift = 0 := by
      rcases integral with nonneg' | divides
      · contradiction
      · simpa [shift_eq] using divides
    have significand_eq : double.significand = 2 ^ shift * (double.significand / 2 ^ shift) := by
      have := Nat.div_add_mod double.significand (2 ^ shift)
      rw [divides] at this
      exact this.symm
    have floor_eq : double.floorMagnitude = double.significand / 2 ^ shift := by
      rw [floorMagnitude, if_neg nonneg, shift_eq]
      rfl
    rw [floor_eq, exponent_eq, zpow_neg, zpow_natCast]
    have power_ne : (2 : ℚ) ^ shift ≠ 0 := by positivity
    field_simp
    exact_mod_cast significand_eq

/-- The value is an integer exactly when nothing is left after the binary
point, and then it is the truncated value. -/
theorem value_eq_truncate {double : Binary64} (integral : double.IsIntegral) :
    double.value = double.truncate := by
  have magnitude := magnitude_eq_floorMagnitude integral
  unfold value truncate
  split
  · rw [mul_assoc, magnitude]
    push_cast
    ring
  · rw [mul_assoc, magnitude]
    push_cast
    ring

theorem isIntegral_of_value_eq {double : Binary64} {integer : Int}
    (value_eq : double.value = integer) : double.IsIntegral := by
  by_cases nonneg : 0 ≤ double.exponent
  · exact Or.inl nonneg
  · refine Or.inr ?_
    rcases Int.eq_ofNat_of_zero_le (a := -double.exponent) (by omega) with ⟨shift, shift_eq⟩
    have exponent_eq : double.exponent = -(shift : Int) := by omega
    have power_ne : (2 : ℚ) ^ shift ≠ 0 := by positivity
    have scaled : (double.significand : ℚ) = |(integer : ℚ)| * 2 ^ shift := by
      have magnitude : |double.value| = double.significand * 2 ^ double.exponent := by
        unfold value
        rw [abs_mul, abs_mul]
        have sign_abs : |(if double.negative then -1 else 1 : ℚ)| = 1 := by split <;> simp
        have power_abs : |(2 : ℚ) ^ double.exponent| = 2 ^ double.exponent :=
          abs_of_pos (by positivity)
        rw [sign_abs, power_abs, one_mul, Nat.abs_cast]
      rw [← value_eq, magnitude, exponent_eq, zpow_neg, zpow_natCast]
      field_simp
    have significand_eq : double.significand = integer.natAbs * 2 ^ shift := by
      have cast_abs : |(integer : ℚ)| = (integer.natAbs : ℚ) := by
        rw [← Int.cast_abs, Int.abs_eq_natAbs]
        rfl
      rw [cast_abs] at scaled
      exact_mod_cast scaled
    rw [shift_eq, significand_eq]
    exact Nat.mul_mod_left _ _

end Binary64

/-- A number value of the language. -/
inductive Number where
  | nan
  | infinity (negative : Bool)
  | finite (double : Binary64)
  deriving DecidableEq

namespace Number

/-- The integer a number is mathematically equal to, if there is one. -/
def integer? : Number → Option Int
  | .finite double => if double.IsIntegral then some double.truncate else none
  | _ => none

theorem integer?_finite (double : Binary64) :
    (finite double).integer? = if double.IsIntegral then some double.truncate else none :=
  rfl

/-- Only finite doubles without a fraction have an integer value. -/
theorem integer?_eq_some_iff {number : Number} {integer : Int} :
    number.integer? = some integer ↔
      ∃ double, number = .finite double ∧ double.IsIntegral ∧ double.truncate = integer := by
  cases number with
  | nan => simp [integer?]
  | infinity negative => simp [integer?]
  | finite double => simp [integer?_finite]

/-- The integer value is the rational value of the double. -/
theorem integer?_finite_eq_some_iff {double : Binary64} {integer : Int} :
    (finite double).integer? = some integer ↔ double.value = integer := by
  rw [integer?_finite]
  constructor
  · intro known
    split at known
    · rename_i integral
      cases known
      exact Binary64.value_eq_truncate integral
    · contradiction
  · intro value_eq
    have integral := Binary64.isIntegral_of_value_eq value_eq
    have cast_eq : (double.truncate : ℚ) = integer :=
      (Binary64.value_eq_truncate integral).symm.trans value_eq
    rw [if_pos integral]
    exact congrArg some (by exact_mod_cast cast_eq)

/-- `Number.isInteger`. -/
def isInteger (number : Number) : Bool :=
  number.integer?.isSome

/-- `Number.isSafeInteger`. -/
def isSafeInteger (number : Number) : Bool :=
  number.integer?.any fun integer => integer.natAbs < 2 ^ 53

/-- `number < 0`. -/
def lessThanZero : Number → Bool
  | .nan => false
  | .infinity negative => negative
  | .finite double => double.negative && double.significand ≠ 0

/-- `number > 0`. -/
def greaterThanZero : Number → Bool
  | .nan => false
  | .infinity negative => !negative
  | .finite double => !double.negative && double.significand ≠ 0

/-- `ToInt32` with the resulting bits read as unsigned: the fraction is dropped
and the rest reduced modulo `2 ^ 32`; values that are not finite become 0. -/
def toUint32 : Number → UInt32
  | .finite double => UInt32.ofNat (double.truncate % 2 ^ 32).toNat
  | _ => 0

theorem isSafeInteger_iff {number : Number} :
    number.isSafeInteger = true ↔
      ∃ integer, number.integer? = some integer ∧ integer.natAbs < 2 ^ 53 := by
  simp [isSafeInteger, Option.any_eq_true]

theorem isInteger_iff {number : Number} :
    number.isInteger = true ↔ ∃ integer, number.integer? = some integer := by
  rw [isInteger, Option.isSome_iff_exists]

/-- An integer is converted modulo `2 ^ 32`. -/
theorem toUint32_eq_of_integer? {number : Number} {integer : Int}
    (known : number.integer? = some integer) :
    number.toUint32 = UInt32.ofNat (integer % 2 ^ 32).toNat := by
  obtain ⟨double, rfl, -, rfl⟩ := integer?_eq_some_iff.mp known
  rfl

/-- A number in range is its own 32-bit conversion. -/
theorem toUint32_of_integer? {number : Number} {index : Nat}
    (known : number.integer? = some (index : Int)) (small : index < 2 ^ 32) :
    number.toUint32.toNat = index := by
  rw [toUint32_eq_of_integer? known, UInt32.toNat_ofNat']
  omega

private theorem magnitude_pos {double : Binary64} (nonzero : double.significand ≠ 0) :
    (0 : ℚ) < double.significand * 2 ^ double.exponent := by
  have : 0 < double.significand := Nat.pos_of_ne_zero nonzero
  positivity

/-- On integers the comparison with zero is the mathematical one. -/
theorem lessThanZero_iff {number : Number} {integer : Int}
    (known : number.integer? = some integer) : number.lessThanZero = true ↔ integer < 0 := by
  obtain ⟨double, rfl, -, -⟩ := integer?_eq_some_iff.mp known
  have value_eq := integer?_finite_eq_some_iff.mp known
  have cast_iff := Int.cast_lt_zero (R := ℚ) (n := integer)
  rw [← cast_iff, ← value_eq, Binary64.value, mul_assoc]
  by_cases zero : double.significand = 0
  · simp [lessThanZero, zero]
  · have positive := magnitude_pos zero
    cases negative : double.negative <;>
      simp [lessThanZero, negative, zero, positive, le_of_lt positive]

theorem greaterThanZero_iff {number : Number} {integer : Int}
    (known : number.integer? = some integer) : number.greaterThanZero = true ↔ 0 < integer := by
  obtain ⟨double, rfl, -, -⟩ := integer?_eq_some_iff.mp known
  have value_eq := integer?_finite_eq_some_iff.mp known
  have cast_iff := Int.cast_pos (R := ℚ) (n := integer)
  rw [← cast_iff, ← value_eq, Binary64.value, mul_assoc]
  by_cases zero : double.significand = 0
  · simp [greaterThanZero, zero]
  · have positive := magnitude_pos zero
    cases negative : double.negative <;>
      simp [greaterThanZero, negative, zero, positive, le_of_lt positive]

/-! ## Rounding a bigint -/

/-- The number with these parts, or an infinity when they are out of range. -/
def ofParts (negative : Bool) (significand : Nat) (exponent : Int) : Number :=
  if fits : significand < 2 ^ 53 ∧ -1074 ≤ exponent ∧ exponent ≤ 971 ∧
      (exponent = -1074 ∨ 2 ^ 52 ≤ significand) then
    .finite ⟨negative, significand, exponent, fits.1, fits.2.1, fits.2.2.1, fits.2.2.2⟩
  else
    .infinity negative

/-- Significand and exponent of the double nearest to a positive natural
number, ties going to the even significand. -/
def nearestParts (natural : Nat) : Nat × Int :=
  let size := natural.log2
  if size ≤ 52 then
    (natural * 2 ^ (52 - size), (size : Int) - 52)
  else
    let shift := size - 52
    let quotient := natural / 2 ^ shift
    let remainder := natural % 2 ^ shift
    let rounded :=
      if 2 * remainder < 2 ^ shift ∨ (2 * remainder = 2 ^ shift ∧ quotient % 2 = 0) then
        quotient
      else
        quotient + 1
    if rounded = 2 ^ 53 then (2 ^ 52, shift + 1) else (rounded, shift)

/-- `Number(bigint)`: the nearest double, infinite past the range. -/
def ofInt (integer : Int) : Number :=
  if integer = 0 then
    ofParts false 0 (-1074)
  else
    ofParts (integer < 0) (nearestParts integer.natAbs).1 (nearestParts integer.natAbs).2

theorem ofParts_of_normal {negative : Bool} {significand : Nat} {exponent : Int}
    (least : 2 ^ 52 ≤ significand) (most : significand < 2 ^ 53)
    (low : -1074 ≤ exponent) (high : exponent ≤ 971) :
    ofParts negative significand exponent =
      .finite ⟨negative, significand, exponent, most, low, high, Or.inr least⟩ :=
  dif_pos ⟨most, low, high, Or.inr least⟩

theorem natAbs_eq_of_integer?_ofParts {negative : Bool} {significand : Nat} {exponent integer : Int}
    (nonneg : 0 ≤ exponent)
    (known : (ofParts negative significand exponent).integer? = some integer) :
    integer.natAbs = significand * 2 ^ exponent.toNat := by
  obtain ⟨double, parts_eq, -, rfl⟩ := integer?_eq_some_iff.mp known
  unfold ofParts at parts_eq
  split at parts_eq
  · cases parts_eq
    rw [Binary64.truncate, Binary64.floorMagnitude, if_pos nonneg]
    split <;> simp only [Int.natAbs_neg, Int.natAbs_natCast]
  · contradiction

/-- Rounding a wide natural keeps at least 53 significant bits above the unit. -/
theorem nearestParts_of_wide {natural : Nat} (wide : 52 < natural.log2) :
    2 ^ 52 ≤ (nearestParts natural).1 ∧ 1 ≤ (nearestParts natural).2 := by
  have nonzero : natural ≠ 0 := by
    rintro rfl
    simp at wide
  have quotient_ge : 2 ^ 52 ≤ natural / 2 ^ (natural.log2 - 52) := by
    rw [Nat.le_div_iff_mul_le (by positivity), ← Nat.pow_add]
    have : 52 + (natural.log2 - 52) = natural.log2 := by omega
    rw [this]
    exact Nat.log2_self_le nonzero
  simp only [nearestParts, if_neg (Nat.not_le.mpr wide)]
  split_ifs <;> constructor <;> (try simp only) <;> omega

/-- Integers of at most 53 bits are rounded to themselves. -/
theorem integer?_ofInt_of_small {integer : Int} (small : integer.natAbs < 2 ^ 53) :
    (ofInt integer).integer? = some integer := by
  by_cases zero : integer = 0
  · subst zero
    have zero_eq : ofInt 0 = .finite ⟨false, 0, -1074, by decide, by decide, by decide,
        Or.inl rfl⟩ := rfl
    rw [zero_eq, integer?_finite_eq_some_iff]
    simp [Binary64.value]
  · have nonzero : integer.natAbs ≠ 0 := by omega
    have size_le : integer.natAbs.log2 ≤ 52 := by
      have := (Nat.log2_lt nonzero).mpr small
      omega
    have low := Nat.log2_self_le nonzero
    have high : integer.natAbs < 2 ^ (integer.natAbs.log2 + 1) := Nat.lt_log2_self
    have scale : 2 ^ integer.natAbs.log2 * 2 ^ (52 - integer.natAbs.log2) = 2 ^ 52 := by
      rw [← Nat.pow_add]
      congr 1
      omega
    have least : 2 ^ 52 ≤ integer.natAbs * 2 ^ (52 - integer.natAbs.log2) := by
      rw [← scale]
      exact Nat.mul_le_mul_right _ low
    have most : integer.natAbs * 2 ^ (52 - integer.natAbs.log2) < 2 ^ 53 := by
      calc integer.natAbs * 2 ^ (52 - integer.natAbs.log2)
          < 2 ^ (integer.natAbs.log2 + 1) * 2 ^ (52 - integer.natAbs.log2) :=
            Nat.mul_lt_mul_of_pos_right high (by positivity)
        _ = 2 ^ 53 := by
            rw [← Nat.pow_add]
            congr 1
            omega
    rw [ofInt, if_neg zero, nearestParts, if_pos size_le,
      ofParts_of_normal least most (by omega) (by omega), integer?_finite_eq_some_iff]
    have exponent_eq : (integer.natAbs.log2 : Int) - 52 =
        -((52 - integer.natAbs.log2 : Nat) : Int) := by omega
    have sign_eq : (if decide (integer < 0) then (-1 : ℚ) else 1) * (integer.natAbs : ℚ) =
        integer := by
      rw [Nat.cast_natAbs]
      rcases lt_or_ge integer 0 with negative | nonneg
      · simp [negative, abs_of_neg negative]
      · simp [not_lt.mpr nonneg, abs_of_nonneg nonneg]
    have power_ne : (2 : ℚ) ^ (52 - integer.natAbs.log2) ≠ 0 := by positivity
    simp only [Binary64.value, exponent_eq, zpow_neg, zpow_natCast, Nat.cast_mul, Nat.cast_pow,
      Nat.cast_ofNat]
    rw [← mul_assoc, sign_eq]
    field_simp

theorem integer?_ofInt_natCast {natural : Nat} (small : natural < 2 ^ 53) :
    (ofInt (natural : Int)).integer? = some (natural : Int) :=
  integer?_ofInt_of_small (by rwa [Int.natAbs_natCast])

/-- Wider integers are never rounded back below `2 ^ 53`. -/
theorem le_natAbs_of_integer?_ofInt {integer rounded : Int} (wide : 2 ^ 53 ≤ integer.natAbs)
    (known : (ofInt integer).integer? = some rounded) : 2 ^ 53 ≤ rounded.natAbs := by
  have nonzero : integer ≠ 0 := by omega
  have size : 52 < integer.natAbs.log2 := by
    by_contra narrow
    have := (Nat.log2_lt (k := 53) (by omega : integer.natAbs ≠ 0)).mp (by omega)
    omega
  obtain ⟨least, exponent_pos⟩ := nearestParts_of_wide size
  rw [ofInt, if_neg nonzero] at known
  rw [natAbs_eq_of_integer?_ofParts (by omega) known]
  rcases Int.eq_ofNat_of_zero_le (by omega : 0 ≤ (nearestParts integer.natAbs).2) with
    ⟨shift, shift_eq⟩
  rw [shift_eq] at exponent_pos ⊢
  have factor : 2 ^ 1 ≤ 2 ^ shift := Nat.pow_le_pow_right (by decide) (by omega)
  calc 2 ^ 53 = 2 ^ 52 * 2 ^ 1 := by norm_num
    _ ≤ (nearestParts integer.natAbs).1 * 2 ^ shift := Nat.mul_le_mul least factor

/-- A bigint that rounds to a safe integer is that integer. -/
theorem integer?_ofInt_of_safe {integer : Int} (safe : (ofInt integer).isSafeInteger = true) :
    (ofInt integer).integer? = some integer := by
  obtain ⟨rounded, known, small⟩ := isSafeInteger_iff.mp safe
  apply integer?_ofInt_of_small
  by_contra wide
  have := le_natAbs_of_integer?_ofInt (Nat.not_lt.mp wide) known
  omega

/-- Every double with an integer value of more than 53 bits is what that
integer rounds to. -/
theorem ofInt_of_integer? {number : Number} {integer : Int}
    (known : number.integer? = some integer) (wide : 2 ^ 53 ≤ integer) :
    ofInt integer = number := by
  have nonneg : number.lessThanZero = false := by
    rw [← Bool.not_eq_true, lessThanZero_iff known]
    omega
  obtain ⟨double, rfl, -, truncate_eq⟩ := integer?_eq_some_iff.mp known
  have significand_lt := double.significand_lt
  have exponent_le := double.exponent_le
  have floor_eq : (double.floorMagnitude : Int) = integer := by
    unfold Binary64.truncate at truncate_eq
    split at truncate_eq
    · omega
    · exact truncate_eq
  have exponent_pos : 0 < double.exponent := by
    by_contra small
    have : double.floorMagnitude ≤ double.significand := by
      unfold Binary64.floorMagnitude
      split
      · have : double.exponent = 0 := by omega
        simp [this]
      · exact Nat.div_le_self _ _
    omega
  rcases Int.eq_ofNat_of_zero_le exponent_pos.le with ⟨shift, shift_eq⟩
  have least : 2 ^ 52 ≤ double.significand := by
    rcases double.normalized with subnormal | least
    · omega
    · exact least
  have natural_eq : integer.natAbs = double.significand * 2 ^ shift := by
    rw [← floor_eq, Int.natAbs_natCast, Binary64.floorMagnitude, if_pos exponent_pos.le, shift_eq]
    rfl
  have size_eq : integer.natAbs.log2 = 52 + shift := by
    apply (Nat.log2_eq_iff (by omega)).mpr
    rw [natural_eq, Nat.pow_add, show 52 + shift + 1 = 53 + shift by omega, Nat.pow_add]
    exact ⟨Nat.mul_le_mul_right _ least,
      Nat.mul_lt_mul_of_pos_right significand_lt (by positivity)⟩
  have quotient_eq : integer.natAbs / 2 ^ shift = double.significand := by
    rw [natural_eq, Nat.mul_div_cancel _ (by positivity)]
  have remainder_eq : integer.natAbs % 2 ^ shift = 0 := by
    rw [natural_eq, Nat.mul_mod_left]
  have parts_eq : nearestParts integer.natAbs = (double.significand, (shift : Int)) := by
    have shift_sub : 52 + shift - 52 = shift := by omega
    simp only [nearestParts, size_eq, shift_sub, quotient_eq, remainder_eq]
    rw [if_neg (by omega), if_pos (Or.inl (by positivity)), if_neg (by omega)]
  have sign_eq : double.negative = false := by
    cases negative : double.negative with
    | false => rfl
    | true =>
        simp only [lessThanZero, negative, Bool.true_and, decide_eq_false_iff_not] at nonneg
        omega
  rw [ofInt, if_neg (by omega), parts_eq,
    ofParts_of_normal least significand_lt (by omega) (by omega)]
  refine congrArg finite (Binary64.ext ?_ rfl shift_eq.symm)
  rw [sign_eq, decide_eq_false_iff_not]
  omega

/-! ## Printing an integer -/

/-- The multiple of `10 ^ zeros` nearest to a natural among those that read
back as the same double; a tie goes to the even multiplier. -/
def nearestMultiple? (natural zeros : Nat) : Option Nat :=
  let lower := natural / 10 ^ zeros * 10 ^ zeros
  let upper := lower + 10 ^ zeros
  let lowerReads := ofInt lower = ofInt natural
  let upperReads := ofInt upper = ofInt natural
  let lowerNearer := natural - lower < upper - natural ∨
    (natural - lower = upper - natural ∧ natural / 10 ^ zeros % 2 = 0)
  if lowerReads ∧ (lowerNearer ∨ ¬upperReads) then some lower
  else if upperReads then some upper
  else none

/-- The decimal with the fewest significant digits that reads back as the
double of an integer value: the one ending in the most zeros. -/
def shortestDecimal (natural : Nat) : Nat :=
  ((List.range (Nat.log 10 natural + 2)).reverse.findSome? (nearestMultiple? natural)).getD natural

/-- Digits with an exponent, for decimals of more than 21 places. -/
def exponential (decimal : Nat) : List Char :=
  let digits := Nat.toDigits 10 decimal
  let significant := (digits.reverse.dropWhile (· = '0')).reverse
  let mantissa := match significant with
    | first :: second :: rest => first :: '.' :: second :: rest
    | short => short
  mantissa ++ 'e' :: '+' :: Nat.toDigits 10 (digits.length - 1)

/-- `Number.prototype.toString` on the double whose value is a natural number. -/
def naturalToString (natural : Nat) : List Char :=
  if shortestDecimal natural < 10 ^ 21 then
    Nat.toDigits 10 (shortestDecimal natural)
  else
    exponential (shortestDecimal natural)

theorem isAscii_toDigits (natural : Nat) : Text.IsAscii (Nat.toDigits 10 natural) := by
  intro char mem
  have digit : char.isDigit := Nat.isDigit_of_mem_toDigits (by decide) (by decide) mem
  simp only [Char.isDigit, Bool.and_eq_true, decide_eq_true_eq] at digit
  have code_le : char.toNat ≤ 57 := digit.2
  omega

/-- Numbers are printed in ASCII. -/
theorem isAscii_naturalToString (natural : Nat) : Text.IsAscii (naturalToString natural) := by
  unfold naturalToString
  split_ifs
  · exact isAscii_toDigits _
  · have significant : Text.IsAscii (((Nat.toDigits 10 (shortestDecimal natural)).reverse.dropWhile
        (· = '0')).reverse) := by
      intro char mem
      apply isAscii_toDigits (shortestDecimal natural)
      exact List.mem_reverse.mp ((List.dropWhile_suffix _).subset (List.mem_reverse.mp mem))
    simp only [exponential, Text.isAscii_append, Text.isAscii_cons]
    refine ⟨?_, by decide, by decide, isAscii_toDigits _⟩
    split
    · rename_i first second rest equal
      rw [equal] at significant
      obtain ⟨firstAscii, restAscii⟩ := Text.isAscii_cons.mp significant
      exact Text.isAscii_cons.mpr ⟨firstAscii, Text.isAscii_cons.mpr ⟨by decide, restAscii⟩⟩
    · exact significant

theorem ofInt_of_nearestMultiple? {natural zeros decimal : Nat}
    (found : nearestMultiple? natural zeros = some decimal) :
    ofInt decimal = ofInt natural ∧
      (decimal = natural / 10 ^ zeros * 10 ^ zeros ∨
        decimal = natural / 10 ^ zeros * 10 ^ zeros + 10 ^ zeros) := by
  simp only [nearestMultiple?] at found
  split_ifs at found with lower upper
  · cases found
    exact ⟨lower.1, Or.inl rfl⟩
  · cases found
    exact ⟨upper, Or.inr rfl⟩

/-- The printed decimal is the number itself or a candidate ending in zeros. -/
theorem shortestDecimal_spec (natural : Nat) :
    shortestDecimal natural = natural ∨
      ∃ zeros ≤ Nat.log 10 natural + 1, nearestMultiple? natural zeros =
        some (shortestDecimal natural) := by
  unfold shortestDecimal
  rcases found : (List.range (Nat.log 10 natural + 2)).reverse.findSome?
      (nearestMultiple? natural) with _ | decimal
  · exact Or.inl rfl
  · rcases List.exists_of_findSome?_eq_some found with ⟨zeros, mem, known⟩
    have bound := List.mem_range.mp (List.mem_reverse.mp mem)
    exact Or.inr ⟨zeros, by omega, known⟩

/-- The printed decimal reads back as the same double. -/
theorem ofInt_shortestDecimal (natural : Nat) :
    ofInt (shortestDecimal natural) = ofInt natural := by
  rcases shortestDecimal_spec natural with equal | ⟨zeros, -, found⟩
  · rw [equal]
  · exact (ofInt_of_nearestMultiple? found).1

/-- Safe integers are printed exactly. -/
theorem shortestDecimal_of_safe {natural : Nat} (safe : natural < 2 ^ 53) :
    shortestDecimal natural = natural := by
  have reads := ofInt_shortestDecimal natural
  have known := integer?_ofInt_natCast safe
  rw [← reads] at known
  by_cases small : shortestDecimal natural < 2 ^ 53
  · have := Option.some.inj ((integer?_ofInt_natCast small).symm.trans known)
    omega
  · have := le_natAbs_of_integer?_ofInt (by simpa using Nat.not_lt.mp small) known
    omega

theorem naturalToString_of_safe {natural : Nat} (safe : natural < 2 ^ 53) :
    naturalToString natural = Nat.toDigits 10 natural := by
  rw [naturalToString, shortestDecimal_of_safe safe, if_pos (by omega)]

/-- From `10 ^ 21` on the printed form has an exponent. -/
theorem mem_naturalToString_of_large {natural : Nat} (large : 10 ^ 21 ≤ natural) :
    'e' ∈ naturalToString natural := by
  have decimal_large : 10 ^ 21 ≤ shortestDecimal natural := by
    rcases shortestDecimal_spec natural with equal | ⟨zeros, -, found⟩
    · omega
    · obtain ⟨reads, lower | upper⟩ := ofInt_of_nearestMultiple? found
      · -- Rounding down to fewer than 22 digits would round to zero.
        by_cases few : zeros ≤ 21
        · have divides : 10 ^ zeros ∣ 10 ^ 21 := Nat.pow_dvd_pow 10 few
          rcases divides with ⟨multiplier, power_eq⟩
          have quotient_le : multiplier ≤ natural / 10 ^ zeros := by
            rw [Nat.le_div_iff_mul_le (by positivity), Nat.mul_comm]
            omega
          rw [lower, power_eq, Nat.mul_comm (10 ^ zeros)]
          exact Nat.mul_le_mul_right _ quotient_le
        · have many : 10 ^ 21 ≤ 10 ^ zeros := Nat.pow_le_pow_right (by decide) (by omega)
          rcases Nat.eq_zero_or_pos (natural / 10 ^ zeros) with zero | positive
          · rw [zero, Nat.zero_mul] at lower
            rw [lower] at reads
            have known : (ofInt (natural : Int)).integer? = some 0 := by
              rw [← reads]
              exact integer?_ofInt_of_small (by decide)
            have := le_natAbs_of_integer?_ofInt (by omega) known
            omega
          · rw [lower]
            exact le_trans many (Nat.le_mul_of_pos_left _ positive)
      · have := Nat.lt_div_mul_add (a := natural) (b := 10 ^ zeros) (by positivity)
        omega
  rw [naturalToString, if_neg (by omega)]
  simp [exponential]

/-- Below `10 ^ 21` a double has at most 21 digits. -/
theorem shortestDecimal_lt_of_lt {number : Number} {natural : Nat}
    (known : number.integer? = some (natural : Int)) (small : natural < 10 ^ 21) :
    shortestDecimal natural < 10 ^ 21 := by
  by_cases safe : natural < 2 ^ 53
  · rw [shortestDecimal_of_safe safe]
    exact small
  have number_eq : ofInt (natural : Int) = number :=
    ofInt_of_integer? known (by omega)
  have decimal_le : shortestDecimal natural ≤ 10 ^ 21 := by
    rcases shortestDecimal_spec natural with equal | ⟨zeros, zeros_le, found⟩
    · omega
    · have zeros_small : zeros ≤ 21 := by
        have := Nat.log_lt_of_lt_pow (b := 10) (by omega : natural ≠ 0) small
        omega
      have power_pos : 0 < 10 ^ zeros := by positivity
      rcases Nat.pow_dvd_pow 10 zeros_small with ⟨multiplier, power_eq⟩
      have quotient_lt : natural / 10 ^ zeros < multiplier := by
        rw [Nat.div_lt_iff_lt_mul (by positivity), Nat.mul_comm, ← power_eq]
        exact small
      have upper_le : (natural / 10 ^ zeros + 1) * 10 ^ zeros ≤ 10 ^ 21 := by
        rw [power_eq, Nat.mul_comm (10 ^ zeros)]
        exact Nat.mul_le_mul_right _ quotient_lt
      rw [Nat.add_mul, Nat.one_mul] at upper_le
      rcases (ofInt_of_nearestMultiple? found).2 with lower | upper <;> omega
  have decimal_ne : shortestDecimal natural ≠ 10 ^ 21 := by
    intro equal
    have reads := ofInt_shortestDecimal natural
    rw [equal, number_eq] at reads
    have exact_power : (ofInt ((10 ^ 21 : Nat) : Int)).integer? = some ((10 ^ 21 : Nat) : Int) := by
      decide +kernel
    rw [reads, known] at exact_power
    have := Option.some.inj exact_power
    omega
  omega

/-- And is printed as plain digits. -/
theorem naturalToString_of_lt {number : Number} {natural : Nat}
    (known : number.integer? = some (natural : Int)) (small : natural < 10 ^ 21) :
    naturalToString natural = Nat.toDigits 10 (shortestDecimal natural) := by
  rw [naturalToString, if_pos (shortestDecimal_lt_of_lt known small)]

example : naturalToString (2 ^ 60) = "1152921504606847000".toList := by decide +kernel

end Number

end Ecma
