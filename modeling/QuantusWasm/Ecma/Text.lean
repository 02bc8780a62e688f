import Mathlib.Data.List.Basic
import Mathlib.Tactic.SplitIfs

/-!
# ECMAScript strings

A string value is a sequence of UTF-16 code units, in which surrogates need not
be paired.  Where a string leaves the language as UTF-8 it is first converted
to Unicode scalar values, and every lone surrogate becomes U+FFFD.  On text of
ASCII characters that conversion is a bijection.
-/

namespace Ecma

/-- A string value: a sequence of UTF-16 code units. -/
abbrev Text := List UInt16

namespace Text

/-- The first unit of a surrogate pair. -/
def IsHighSurrogate (unit : UInt16) : Prop :=
  0xD800 ≤ unit.toNat ∧ unit.toNat < 0xDC00

/-- The second unit of a surrogate pair. -/
def IsLowSurrogate (unit : UInt16) : Prop :=
  0xDC00 ≤ unit.toNat ∧ unit.toNat < 0xE000

instance (unit : UInt16) : Decidable (IsHighSurrogate unit) :=
  inferInstanceAs (Decidable (_ ∧ _))

instance (unit : UInt16) : Decidable (IsLowSurrogate unit) :=
  inferInstanceAs (Decidable (_ ∧ _))

/-- The character a surrogate pair stands for. -/
def pairScalar (high low : UInt16) : Char :=
  Char.ofNat (0x10000 + 0x400 * (high.toNat - 0xD800) + (low.toNat - 0xDC00))

/-- The character of a single unit; a lone surrogate is replaced. -/
def unitScalar (unit : UInt16) : Char :=
  if IsHighSurrogate unit ∨ IsLowSurrogate unit then '\uFFFD' else Char.ofNat unit.toNat

/-- Conversion to Unicode scalar values, as `TextEncoder` performs it. -/
def toScalars : Text → List Char
  | [] => []
  | [unit] => [unitScalar unit]
  | unit :: next :: rest =>
      if IsHighSurrogate unit ∧ IsLowSurrogate next then
        pairScalar unit next :: toScalars rest
      else
        unitScalar unit :: toScalars (next :: rest)

/-- The string value of text in the basic multilingual plane. -/
def ofChars (chars : List Char) : Text :=
  chars.map fun char => UInt16.ofNat char.toNat

/-- Text made of ASCII characters only. -/
def IsAscii (chars : List Char) : Prop :=
  ∀ char ∈ chars, char.toNat < 128

instance (chars : List Char) : Decidable (IsAscii chars) :=
  List.decidableBAll _ chars

/-- What holds of every code below a bound holds of the characters below it. -/
theorem of_code_lt (property : Char → Prop) {bound : Nat} {char : Char}
    (small : char.toNat < bound) (table : ∀ code < bound, property (Char.ofNat code)) :
    property char := by
  have known := table char.toNat small
  rw [Char.ofNat_toNat] at known
  exact known

theorem isAscii_cons {char : Char} {rest : List Char} :
    IsAscii (char :: rest) ↔ char.toNat < 128 ∧ IsAscii rest := by
  simp [IsAscii]

theorem isAscii_append {first second : List Char} :
    IsAscii (first ++ second) ↔ IsAscii first ∧ IsAscii second := by
  simp [IsAscii, or_imp, forall_and]

theorem toNat_ofNat_of_valid {code : Nat} (valid : code.isValidChar) :
    (Char.ofNat code).toNat = code := by
  rw [Char.ofNat, dif_pos valid]
  rfl

/-- A unit that is not a surrogate is its own scalar value. -/
theorem unitScalar_toNat {unit : UInt16} (notHigh : ¬IsHighSurrogate unit)
    (notLow : ¬IsLowSurrogate unit) : (unitScalar unit).toNat = unit.toNat := by
  have unit_lt : unit.toNat < 65536 := unit.toNat_lt
  simp only [IsHighSurrogate, IsLowSurrogate] at notHigh notLow
  rw [unitScalar, if_neg (by simp only [IsHighSurrogate, IsLowSurrogate]; omega),
    toNat_ofNat_of_valid]
  simp only [Nat.isValidChar]
  omega

/-- A surrogate pair never stands for an ASCII character. -/
theorem le_toNat_pairScalar {high low : UInt16} (isHigh : IsHighSurrogate high)
    (isLow : IsLowSurrogate low) : 0x10000 ≤ (pairScalar high low).toNat := by
  simp only [IsHighSurrogate, IsLowSurrogate] at isHigh isLow
  rw [pairScalar, toNat_ofNat_of_valid]
  · omega
  · simp only [Nat.isValidChar]
    omega

/-- The unit of an ASCII scalar is that scalar's own code. -/
theorem eq_ofNat_of_unitScalar_ascii {unit : UInt16} (ascii : (unitScalar unit).toNat < 128) :
    unit = UInt16.ofNat (unitScalar unit).toNat := by
  by_cases surrogate : IsHighSurrogate unit ∨ IsLowSurrogate unit
  · rw [unitScalar, if_pos surrogate] at ascii
    contradiction
  · rw [not_or] at surrogate
    rw [unitScalar_toNat surrogate.1 surrogate.2, UInt16.ofNat_toNat]

theorem unitScalar_ofNat {char : Char} (ascii : char.toNat < 128) :
    unitScalar (UInt16.ofNat char.toNat) = char := by
  have unit_eq : (UInt16.ofNat char.toNat).toNat = char.toNat := by
    rw [UInt16.toNat_ofNat']
    omega
  have notHigh : ¬IsHighSurrogate (UInt16.ofNat char.toNat) := by
    simp only [IsHighSurrogate, unit_eq]
    omega
  have notLow : ¬IsLowSurrogate (UInt16.ofNat char.toNat) := by
    simp only [IsLowSurrogate, unit_eq]
    omega
  rw [unitScalar, if_neg (not_or.mpr ⟨notHigh, notLow⟩), unit_eq, Char.ofNat_toNat]

/-- Conversion to scalar values undoes `ofChars` on ASCII text. -/
theorem toScalars_ofChars {chars : List Char} (ascii : IsAscii chars) :
    toScalars (ofChars chars) = chars := by
  induction chars with
  | nil => rfl
  | cons char rest ih =>
      obtain ⟨small, restAscii⟩ := isAscii_cons.mp ascii
      have rest_eq := ih restAscii
      cases rest with
      | nil => simp [ofChars, toScalars, unitScalar_ofNat small]
      | cons next tail =>
          have notHigh : ¬IsHighSurrogate (UInt16.ofNat char.toNat) := by
            simp only [IsHighSurrogate, UInt16.toNat_ofNat']
            omega
          simp only [ofChars, List.map_cons] at rest_eq ⊢
          rw [toScalars, if_neg (fun pair => notHigh pair.1), unitScalar_ofNat small, rest_eq]

/-- Only the string's own units convert to ASCII text. -/
theorem eq_ofChars_of_toScalars_ascii {text : Text} (ascii : IsAscii (toScalars text)) :
    text = ofChars (toScalars text) := by
  induction text using toScalars.induct with
  | case1 => rfl
  | case2 unit =>
      have small : (unitScalar unit).toNat < 128 := by simpa [toScalars, IsAscii] using ascii
      exact congrArg (fun unit => [unit]) (eq_ofNat_of_unitScalar_ascii small)
  | case3 unit next rest pair _ =>
      rw [toScalars, if_pos pair] at ascii
      have small := (isAscii_cons.mp ascii).1
      have large := le_toNat_pairScalar pair.1 pair.2
      omega
  | case4 unit next rest notPair ih =>
      rw [toScalars, if_neg notPair] at ascii ⊢
      obtain ⟨small, restAscii⟩ := isAscii_cons.mp ascii
      exact congrArg₂ List.cons (eq_ofNat_of_unitScalar_ascii small) (ih restAscii)

/-- A string converts to a given ASCII text exactly when it is that text. -/
theorem toScalars_eq_iff {text : Text} {chars : List Char} (ascii : IsAscii chars) :
    toScalars text = chars ↔ text = ofChars chars := by
  constructor
  · rintro rfl
    exact eq_ofChars_of_toScalars_ascii ascii
  · rintro rfl
    exact toScalars_ofChars ascii

end Text

end Ecma
