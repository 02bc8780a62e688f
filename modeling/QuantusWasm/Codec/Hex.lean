import Mathlib.Data.List.Basic
import Mathlib.Tactic.SplitIfs

/-!
# Hexadecimal text

Bytes are written as two lower-case digits each; the reader takes either case
and refuses an odd number of digits or any other character.
-/

namespace Hex

/-- The value of a hexadecimal digit of either case. -/
def digitValue (char : Char) : Option Nat :=
  if '0' ≤ char ∧ char ≤ '9' then
    some (char.toNat - 48)
  else if 'a' ≤ char ∧ char ≤ 'f' then
    some (char.toNat - 87)
  else if 'A' ≤ char ∧ char ≤ 'F' then
    some (char.toNat - 55)
  else
    none

/-- The lower-case digit of a value below sixteen. -/
def digit (value : Nat) : Char :=
  if value < 10 then Char.ofNat (48 + value) else Char.ofNat (87 + value)

/-- Write bytes as lower-case digits, high half first. -/
def encode : List UInt8 → List Char
  | [] => []
  | byte :: rest => digit (byte.toNat / 16) :: digit (byte.toNat % 16) :: encode rest

/-- Read digit pairs as bytes. -/
def decode : List Char → Option (List UInt8)
  | [] => some []
  | [_] => none
  | high :: low :: rest => do
      let highValue ← digitValue high
      let lowValue ← digitValue low
      let bytes ← decode rest
      pure (UInt8.ofNat (16 * highValue + lowValue) :: bytes)

/-- Text made of hexadecimal digits only. -/
def IsDigits (text : List Char) : Prop :=
  ∀ char ∈ text, (digitValue char).isSome

instance (text : List Char) : Decidable (IsDigits text) :=
  List.decidableBAll _ text

theorem digitValue_digit : ∀ value < 16, digitValue (digit value) = some value := by
  decide

theorem toNat_lt_of_isSome {char : Char} (digit : (digitValue char).isSome) : char.toNat < 103 := by
  unfold digitValue at digit
  split_ifs at digit with decimal lower upper
  · have bound : char.toNat ≤ 57 := decimal.2
    omega
  · have bound : char.toNat ≤ 102 := lower.2
    omega
  · have bound : char.toNat ≤ 70 := upper.2
    omega
  · contradiction

@[simp]
theorem length_encode (bytes : List UInt8) : (encode bytes).length = 2 * bytes.length := by
  induction bytes with
  | nil => rfl
  | cons byte rest ih =>
      simp only [encode, List.length_cons, ih]
      omega

/-- Reading what was written gives the bytes back. -/
@[simp]
theorem decode_encode (bytes : List UInt8) : decode (encode bytes) = some bytes := by
  induction bytes with
  | nil => rfl
  | cons byte rest ih =>
      have byte_lt : byte.toNat < 256 := byte.toNat_lt
      have high := digitValue_digit (byte.toNat / 16) (by omega)
      have low := digitValue_digit (byte.toNat % 16) (by omega)
      have joined : UInt8.ofNat (16 * (byte.toNat / 16) + byte.toNat % 16) = byte := by
        rw [Nat.div_add_mod, UInt8.ofNat_toNat]
      simp only [encode, decode, high, low, ih, Option.bind_eq_bind, Option.bind_some,
        Option.pure_def, joined]

theorem digit_isDigit {value : Nat} (small : value < 16) : (digitValue (digit value)).isSome := by
  rw [digitValue_digit value small]
  rfl

theorem encode_isDigits (bytes : List UInt8) : IsDigits (encode bytes) := by
  induction bytes with
  | nil => simp [IsDigits, encode]
  | cons byte rest ih =>
      have byte_lt : byte.toNat < 256 := byte.toNat_lt
      intro char mem
      simp only [encode, List.mem_cons] at mem
      rcases mem with rfl | rfl | later
      · exact digit_isDigit (by omega)
      · exact digit_isDigit (by omega)
      · exact ih char later

/-- Everything the reader accepts is an even run of digits. -/
theorem isDigits_of_decode {text : List Char} {bytes : List UInt8}
    (decoded : decode text = some bytes) :
    IsDigits text ∧ text.length = 2 * bytes.length := by
  induction text using decode.induct generalizing bytes with
  | case1 =>
      cases decoded
      simp [IsDigits]
  | case2 => simp [decode] at decoded
  | case3 high low rest ih =>
      simp only [decode, Option.bind_eq_bind, Option.bind_eq_some_iff, Option.pure_def,
        Option.some.injEq] at decoded
      rcases decoded with ⟨highValue, highKnown, lowValue, lowKnown, tail, tailRead, rfl⟩
      obtain ⟨digits, length_eq⟩ := ih tailRead
      constructor
      · intro char mem
        rcases List.mem_cons.mp mem with rfl | mem
        · simp [highKnown]
        rcases List.mem_cons.mp mem with rfl | mem
        · simp [lowKnown]
        · exact digits char mem
      · simp only [List.length_cons, length_eq]
        omega

/-- Every even run of digits is accepted. -/
theorem exists_decode_of_isDigits {text : List Char} {count : Nat} (digits : IsDigits text)
    (length_eq : text.length = 2 * count) :
    ∃ bytes, decode text = some bytes ∧ bytes.length = count := by
  induction text using decode.induct generalizing count with
  | case1 =>
      have count_eq : count = 0 := by
        simp only [List.length_nil] at length_eq
        omega
      exact ⟨[], rfl, count_eq.symm⟩
  | case2 char =>
      simp only [List.length_singleton] at length_eq
      omega
  | case3 high low rest ih =>
      rcases Option.isSome_iff_exists.mp (digits high (by simp)) with ⟨highValue, highKnown⟩
      rcases Option.isSome_iff_exists.mp (digits low (by simp)) with ⟨lowValue, lowKnown⟩
      have restDigits : IsDigits rest := fun char mem => digits char (by simp [mem])
      simp only [List.length_cons] at length_eq
      have rest_length : rest.length = 2 * (count - 1) := by omega
      obtain ⟨bytes, restRead, bytesLength⟩ := ih restDigits rest_length
      refine ⟨UInt8.ofNat (16 * highValue + lowValue) :: bytes, ?_, ?_⟩
      · simp [decode, highKnown, lowKnown, restRead]
      · simp only [List.length_cons, bytesLength]
        omega

/-! ## Letter case -/

/-- Digits of either case that spell out the bytes. -/
def IsHexOf (content : List UInt8) (text : List Char) : Prop :=
  text.map Char.toLower = encode content

instance (content : List UInt8) (text : List Char) : Decidable (IsHexOf content text) :=
  inferInstanceAs (Decidable (_ = _))

theorem toLower_of_digitValue {char : Char} {value : Nat} (known : digitValue char = some value) :
    value < 16 ∧ char.toLower = digit value := by
  have table : ∀ code < 103, ∀ value ∈ digitValue (Char.ofNat code),
      value < 16 ∧ (Char.ofNat code).toLower = digit value := by decide
  have small : char.toNat < 103 := toNat_lt_of_isSome (Option.isSome_of_mem known)
  have found := table char.toNat small value
  rw [Char.ofNat_toNat] at found
  exact found known

/-- Case does not matter to the reader. -/
theorem digitValue_toLower (char : Char) : digitValue char.toLower = digitValue char := by
  by_cases small : char.toNat < 128
  · have table : ∀ code < 128,
        digitValue (Char.ofNat code).toLower = digitValue (Char.ofNat code) := by decide
    have found := table char.toNat small
    rw [Char.ofNat_toNat] at found
    exact found
  · have same : char.toLower = char := by
      have notUpper : ¬(char.val ≥ 'A'.val ∧ char.val ≤ 'Z'.val) := by
        rintro ⟨_, upper⟩
        have bound : char.toNat ≤ 90 := UInt32.le_iff_toNat_le.mp upper
        omega
      exact dif_neg notUpper
    rw [same]

theorem digitValue_eq_some_iff {char : Char} {value : Nat} :
    digitValue char = some value ↔ value < 16 ∧ char.toLower = digit value := by
  constructor
  · exact toLower_of_digitValue
  · rintro ⟨small, lower⟩
    rw [← digitValue_toLower, lower, digitValue_digit value small]

/-- The reader accepts exactly the digits of the bytes, in either case. -/
theorem decode_eq_some_iff {text : List Char} {content : List UInt8} :
    decode text = some content ↔ IsHexOf content text := by
  induction text using decode.induct generalizing content with
  | case1 => cases content <;> simp [decode, IsHexOf, encode]
  | case2 char => cases content <;> simp [decode, IsHexOf, encode]
  | case3 high low rest ih =>
      simp only [decode, Option.bind_eq_bind, Option.bind_eq_some_iff, Option.pure_def,
        Option.some.injEq, digitValue_eq_some_iff]
      constructor
      · rintro ⟨highValue, ⟨high_lt, highLower⟩, lowValue, ⟨low_lt, lowLower⟩, tail, tailRead, rfl⟩
        have fits : 16 * highValue + lowValue < 256 := by omega
        have joined : (UInt8.ofNat (16 * highValue + lowValue)).toNat =
            16 * highValue + lowValue := UInt8.toNat_ofNat_of_lt' fits
        have highHalf : (16 * highValue + lowValue) / 16 = highValue := by omega
        have lowHalf : (16 * highValue + lowValue) % 16 = lowValue := by omega
        have tailHex := ih.mp tailRead
        rw [IsHexOf, encode, joined, highHalf, lowHalf, ← highLower, ← lowLower, ← tailHex]
        rfl
      · intro hex
        cases content with
        | nil => contradiction
        | cons byte tail =>
            have byte_lt : byte.toNat < 256 := byte.toNat_lt
            rcases List.cons.inj hex with ⟨highLower, later⟩
            rcases List.cons.inj later with ⟨lowLower, tailHex⟩
            refine ⟨byte.toNat / 16, ⟨by omega, highLower⟩, byte.toNat % 16,
              ⟨by omega, lowLower⟩, tail, ih.mpr tailHex, ?_⟩
            rw [Nat.div_add_mod, UInt8.ofNat_toNat]

theorem IsHexOf.isDigits {content : List UInt8} {text : List Char} (hex : IsHexOf content text) :
    IsDigits text :=
  (isDigits_of_decode (decode_eq_some_iff.mpr hex)).1

theorem IsHexOf.length_eq {content : List UInt8} {text : List Char}
    (hex : IsHexOf content text) : text.length = 2 * content.length :=
  (isDigits_of_decode (decode_eq_some_iff.mpr hex)).2

example : IsHexOf [10, 255] "0aFf".toList := by decide

end Hex
