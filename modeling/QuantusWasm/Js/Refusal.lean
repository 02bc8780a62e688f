import QuantusWasm.Js.Representation

/-!
# Refusals of the TypeScript layer

What each conversion says when it refuses a value, and what is wrong with the
value then.
-/

namespace QuantusWasm

namespace Js

open Ecma Effect Ext

/-! ## Arguments -/

/-- The numbers and bigints that `toNumber` takes. -/
def IsCounter (value : Value) : Prop :=
  ∃ number, (value = .number number ∨
    ∃ integer, value = .bigint integer ∧ Number.ofInt integer = number) ∧
      number.isInteger = true ∧ number.lessThanZero = false

/-- Strings and byte arrays. -/
def IsText : Value → Prop
  | .string _ | .uint8Array _ => True
  | _ => False

/-- The values an amount may have, short of its digits. -/
def IsAmountKind : Value → Prop
  | .bigint _ | .number _ | .string _ => True
  | _ => False

/-- A number that is no natural number. -/
def IsBadNumber (value : Value) : Prop :=
  ∃ number, value = .number number ∧ ∀ natural : Nat, number.integer? ≠ some (natural : Int)

/-! ## Conversions fail with their own error -/

theorem toNumber_eq_error_iff {value : Value} {field : String} {thrown : Thrown} :
    toNumber value field = .error thrown ↔
      thrown = .typeError (field ++ " must be a non-negative integer") ∧ ¬IsCounter value := by
  constructor
  · intro refused
    constructor
    · cases value with
      | number number =>
          simp only [toNumber] at refused
          split_ifs at refused
          cases refused
          rfl
      | bigint integer =>
          simp only [toNumber] at refused
          split_ifs at refused
          cases refused
          rfl
      | undefined => cases refused; rfl
      | null => cases refused; rfl
      | boolean value => cases refused; rfl
      | string text => cases refused; rfl
      | uint8Array content => cases refused; rfl
      | other => cases refused; rfl
    · rintro ⟨number, taken⟩
      rw [toNumber_eq_ok_iff.mpr taken] at refused
      contradiction
  · rintro ⟨rfl, notCounter⟩
    cases value with
    | number number =>
        apply if_pos
        by_contra kept
        simp only [Bool.or_eq_true, Bool.not_eq_true', not_or, Bool.not_eq_false,
          Bool.not_eq_true] at kept
        exact notCounter ⟨number, .inl rfl, kept⟩
    | bigint integer =>
        apply if_pos
        by_contra kept
        simp only [Bool.or_eq_true, Bool.not_eq_true', not_or, Bool.not_eq_false,
          Bool.not_eq_true] at kept
        exact notCounter ⟨_, .inr ⟨integer, rfl, rfl⟩, kept⟩
    | undefined => rfl
    | null => rfl
    | boolean value => rfl
    | string text => rfl
    | uint8Array content => rfl
    | other => rfl

/-- A number is taken exactly when it is a natural number. -/
theorem toDecimal_number_eq_error_iff {number : Number} {field : String} {thrown : Thrown} :
    toDecimal (.number number) field = .error thrown ↔
      thrown = .typeError (field ++ " must be a non-negative integer") ∧
        IsBadNumber (.number number) := by
  have bad_iff : IsBadNumber (.number number) ↔
      ¬∃ natural : Nat, number.integer? = some (natural : Int) := by
    simp [IsBadNumber]
  rw [bad_iff]
  cases known : number.integer? with
  | none =>
      simp only [toDecimal, known]
      exact error_eq_error_iff (by simp)
  | some integer =>
      simp only [toDecimal, known]
      by_cases negative : number.lessThanZero = true
      · rw [if_pos negative]
        have below := (Number.lessThanZero_iff known).mp negative
        apply error_eq_error_iff
        rintro ⟨natural, same⟩
        rw [Option.some.inj same] at below
        omega
      · rw [if_neg negative]
        rw [Number.lessThanZero_iff known, not_lt] at negative
        apply ok_eq_error_iff
        exact ⟨integer.toNat, congrArg some (Int.toNat_of_nonneg negative).symm⟩

theorem toDecimal_eq_error_iff {value : Value} {field : String} {thrown : Thrown} :
    toDecimal value field = .error thrown ↔
      thrown = .typeError (field ++ " must be a non-negative integer") ∧ IsBadNumber value ∨
      thrown = .typeError (field ++ " must be a bigint, integer, or decimal string") ∧
        ¬IsAmountKind value := by
  cases value with
  | number number => simp [toDecimal_number_eq_error_iff, IsAmountKind]
  | bigint integer => simp [toDecimal, IsBadNumber, IsAmountKind]
  | string text => simp [toDecimal, IsBadNumber, IsAmountKind]
  | undefined => simp [toDecimal, IsBadNumber, IsAmountKind, eq_comm]
  | null => simp [toDecimal, IsBadNumber, IsAmountKind, eq_comm]
  | boolean value => simp [toDecimal, IsBadNumber, IsAmountKind, eq_comm]
  | uint8Array content => simp [toDecimal, IsBadNumber, IsAmountKind, eq_comm]
  | other => simp [toDecimal, IsBadNumber, IsAmountKind, eq_comm]

theorem toHex_eq_error_iff {value : Value} {field : String} {thrown : Thrown} :
    toHex value field = .error thrown ↔
      thrown = .typeError (field ++ " must be a hex string or Uint8Array") ∧ ¬IsText value := by
  cases value with
  | string text => exact ok_eq_error_iff trivial
  | uint8Array content => exact ok_eq_error_iff trivial
  | undefined => exact error_eq_error_iff id
  | null => exact error_eq_error_iff id
  | boolean value => exact error_eq_error_iff id
  | number number => exact error_eq_error_iff id
  | bigint integer => exact error_eq_error_iff id
  | other => exact error_eq_error_iff id

theorem toRecipient_eq_error_iff {value : Value} {thrown : Thrown} :
    toRecipient value = .error thrown ↔
      thrown = .typeError "recipient must be an SS58 string, hex string, or Uint8Array" ∧
        ¬IsText value := by
  cases value with
  | string text => exact ok_eq_error_iff trivial
  | uint8Array content => exact ok_eq_error_iff trivial
  | undefined => exact error_eq_error_iff id
  | null => exact error_eq_error_iff id
  | boolean value => exact error_eq_error_iff id
  | number number => exact error_eq_error_iff id
  | bigint integer => exact error_eq_error_iff id
  | other => exact error_eq_error_iff id

theorem toBytes_eq_error_iff {value : Value} {field : String} {thrown : Thrown} :
    toBytes value field = .error thrown ↔
      thrown = .typeError (field ++ " must be a hex string or Uint8Array") ∧
        ¬∃ bytes, RepresentsCall bytes value := by
  simp only [← @toBytes_eq_ok_iff value field]
  cases value with
  | string text =>
      simp only [toBytes]
      split
      · exact error_eq_error_iff (by simp)
      · exact ok_eq_error_iff ⟨_, rfl⟩
  | uint8Array content => exact ok_eq_error_iff ⟨_, rfl⟩
  | undefined => exact error_eq_error_iff (by simp [toBytes])
  | null => exact error_eq_error_iff (by simp [toBytes])
  | boolean value => exact error_eq_error_iff (by simp [toBytes])
  | number number => exact error_eq_error_iff (by simp [toBytes])
  | bigint integer => exact error_eq_error_iff (by simp [toBytes])
  | other => exact error_eq_error_iff (by simp [toBytes])

/-- A seed is 32 bytes. -/
def IsSeed (value : Value) : Prop :=
  ∃ seed, value = .uint8Array seed ∧ seed.length = 32

theorem asSeed_eq_error_iff {value : Value} {thrown : Thrown} :
    asSeed value = .error thrown ↔
      thrown = .typeError "seed must be a 32-byte Uint8Array" ∧ ¬IsSeed value := by
  cases value with
  | uint8Array content =>
      simp only [asSeed]
      by_cases short : content.length ≠ 32
      · rw [if_pos short]
        exact error_eq_error_iff (by simpa [IsSeed] using short)
      · rw [if_neg short]
        exact ok_eq_error_iff ⟨content, rfl, not_not.mp short⟩
  | undefined => exact error_eq_error_iff (by simp [IsSeed])
  | null => exact error_eq_error_iff (by simp [IsSeed])
  | boolean value => exact error_eq_error_iff (by simp [IsSeed])
  | number number => exact error_eq_error_iff (by simp [IsSeed])
  | bigint integer => exact error_eq_error_iff (by simp [IsSeed])
  | string text => exact error_eq_error_iff (by simp [IsSeed])
  | other => exact error_eq_error_iff (by simp [IsSeed])

/-- The first field may be omitted. -/
theorem unlessUndefined_eq_error_iff {α : Type} {value : Value} {absent : α}
    {convert : Value → Except Thrown α} {thrown : Thrown} :
    unlessUndefined value absent convert = .error thrown ↔
      value ≠ .undefined ∧ convert value = .error thrown := by
  unfold unlessUndefined
  split_ifs with omitted
  · simp [omitted]
  · simp [omitted]

end Js

end QuantusWasm
