import QuantusWasm.Wasm.Bindings

/-!
# Refusals of the wasm bindings

What each parser of the bindings says when it refuses a text, and what is wrong
with the text then.
-/

namespace QuantusWasm.Wasm

open Effect Ext

/-! ## Bytes -/

theorem toBytes32_eq_none_iff {content : List UInt8} :
    toBytes32 content = none ↔ content.length ≠ 32 := by
  unfold toBytes32
  split_ifs with fits <;> simp [fits]

/-- Digits are refused for what they are or for how many they are. -/
theorem readBytes32_eq_error_iff {digits : List Char} {invalid wrongLength thrown : Thrown} :
    (match Hex.decode digits with
      | none => (.error invalid : Except Thrown Bytes32)
      | some content =>
          match toBytes32 content with
          | none => .error wrongLength
          | some value => .ok value) = .error thrown ↔
      thrown = invalid ∧ Hex.decode digits = none ∨
      thrown = wrongLength ∧ ∃ content, Hex.decode digits = some content ∧
        content.length ≠ 32 := by
  cases Hex.decode digits with
  | none =>
      simp only [Except.error.injEq, and_true, reduceCtorEq, false_and, exists_false, and_false,
        or_false]
      exact eq_comm
  | some content =>
      simp only [reduceCtorEq, and_false, Option.some.injEq, false_or, exists_eq_left',
        ← toBytes32_eq_none_iff]
      cases toBytes32 content with
      | none =>
          simp only [Except.error.injEq, and_true]
          exact eq_comm
      | some value => simp

theorem parseH256_eq_error_iff {text : List Char} {field : String} {thrown : Thrown} :
    parseH256 text field = .error thrown ↔
      thrown = .jsError (field ++ ": invalid hex") ∧ (∀ content, ¬Spells text content) ∨
      thrown = .jsError (field ++ ": expected 32 bytes") ∧
        ∃ content, Spells text content ∧ content.length ≠ 32 := by
  refine readBytes32_eq_error_iff.trans ?_
  simp only [← decode_eq_some_iff_spells, ← Option.eq_none_iff_forall_ne_some]

/-! ## Recipients -/

/-- A recipient is refused for its digits, for their number, or as an address. -/
theorem parseAccountId_eq_error_iff {crates : Crates} {text : List Char} {thrown : Thrown} :
    parseAccountId crates text = .error thrown ↔
      (∃ digits, trim text = '0' :: 'x' :: digits ∧
        (thrown = .jsError "recipient: invalid hex" ∧ (∀ content, ¬Hex.IsHexOf content digits) ∨
        thrown = .jsError "recipient: expected 32 bytes" ∧
          ∃ content, Hex.IsHexOf content digits ∧ content.length ≠ 32)) ∨
      thrown = .jsError "recipient: invalid SS58 address" ∧
        (∀ digits, trim text ≠ '0' :: 'x' :: digits) ∧
        crates.fromSs58checkWithVersion (trim text) = none := by
  simp only [← stripHexPrefix_eq_some_iff, ne_eq, parseAccountId]
  cases stripHexPrefix (trim text) with
  | some digits =>
      simp only [Option.some.injEq, exists_eq_left', forall_eq', false_and, and_false, or_false,
        ← Hex.decode_eq_some_iff, ← Option.eq_none_iff_forall_ne_some]
      exact readBytes32_eq_error_iff
  | none =>
      cases crates.fromSs58checkWithVersion (trim text) with
      | none =>
          simp only [Except.error.injEq, reduceCtorEq, false_and, exists_false, not_false_eq_true,
            implies_true, and_true, false_or]
          exact eq_comm
      | some pair => simp

/-! ## Amounts and schemes -/

theorem parseU128_eq_error_iff {text : List Char} {field : String} {thrown : Thrown} :
    parseU128 text field = .error thrown ↔
      thrown = .jsError (field ++ ": invalid u128 decimal string") ∧
        ∀ word : BitVec 128, ¬DecimalText (trim text) word.toNat := by
  simp only [← u128FromStr_eq_some_iff, ← Option.eq_none_iff_forall_ne_some, parseU128]
  cases u128FromStr (trim text) with
  | none =>
      simp only [Except.error.injEq, and_true]
      exact eq_comm
  | some word => simp

/-- The error for a name that is no scheme. -/
def unknownScheme (name : List Char) : Thrown :=
  .jsError ("scheme: expected \"ml-dsa-87\" or \"ml-dsa-65\", got \"" ++ String.ofList name ++
    "\"")

theorem parseScheme_eq_error_iff {text : Option (List Char)} {thrown : Thrown} :
    parseScheme text = .error thrown ↔
      ∃ name, text = some name ∧ thrown = unknownScheme name ∧
        ∀ scheme : Scheme, name ≠ scheme.name := by
  cases text with
  | none => simp [parseScheme]
  | some name =>
      simp only [Option.some.injEq, exists_eq_left', ne_eq, ← Scheme.parse_eq_some_iff,
        ← Option.eq_none_iff_forall_ne_some, parseScheme]
      cases Scheme.parse name with
      | none =>
          simp only [Except.error.injEq, and_true]
          exact eq_comm
      | some scheme => simp

end QuantusWasm.Wasm
