import QuantusWasm.Codec.Core
import Mathlib.Algebra.Group.Nat.Defs
import Mathlib.Data.Nat.Log

/-!
# Little-endian and SCALE compact integers

The compact format spends the two low bits of its first byte on a mode.  Modes
0 to 2 store the value in the remaining bits of one, two or four bytes; mode 3
stores a byte count and then that many little-endian bytes.  Every value has
exactly one encoding, the shortest, and the decoder refuses the others.
-/

namespace Codec

/-! ## Little-endian integers -/

/-- The `width` little-endian bytes of a natural number. -/
def littleEndian : Nat → Nat → List UInt8
  | 0, _ => []
  | width + 1, value => UInt8.ofNat value :: littleEndian width (value / 256)

/-- The number a little-endian byte string stands for. -/
def ofLittleEndian : List UInt8 → Nat
  | [] => 0
  | byte :: rest => byte.toNat + 256 * ofLittleEndian rest

@[simp]
theorem length_littleEndian (width value : Nat) :
    (littleEndian width value).length = width := by
  induction width generalizing value with
  | zero => rfl
  | succ width ih => simp [littleEndian, ih]

theorem ofLittleEndian_lt (bytes : List UInt8) :
    ofLittleEndian bytes < 256 ^ bytes.length := by
  induction bytes with
  | nil => simp [ofLittleEndian]
  | cons byte rest ih =>
      have byte_lt : byte.toNat < 256 := byte.toNat_lt
      simp only [ofLittleEndian, List.length_cons, Nat.pow_succ]
      omega

theorem ofLittleEndian_littleEndian {width value : Nat} (fits : value < 256 ^ width) :
    ofLittleEndian (littleEndian width value) = value := by
  induction width generalizing value with
  | zero => simp_all [littleEndian, ofLittleEndian]
  | succ width ih =>
      have quotient_fits : value / 256 < 256 ^ width := by
        rw [Nat.pow_succ] at fits
        omega
      simp only [littleEndian, ofLittleEndian, ih quotient_fits, UInt8.toNat_ofNat']
      omega

theorem littleEndian_ofLittleEndian (bytes : List UInt8) :
    littleEndian bytes.length (ofLittleEndian bytes) = bytes := by
  induction bytes with
  | nil => rfl
  | cons byte rest ih =>
      have byte_lt : byte.toNat < 256 := byte.toNat_lt
      have quotient_eq : (byte.toNat + 256 * ofLittleEndian rest) / 256 =
          ofLittleEndian rest := by omega
      have head_eq : UInt8.ofNat (byte.toNat + 256 * ofLittleEndian rest) = byte := by
        apply UInt8.toNat_inj.mp
        rw [UInt8.toNat_ofNat']
        omega
      simp only [ofLittleEndian, List.length_cons, littleEndian, quotient_eq, head_eq, ih]

theorem littleEndian_injOn {width left right : Nat}
    (leftFits : left < 256 ^ width) (rightFits : right < 256 ^ width)
    (equal : littleEndian width left = littleEndian width right) : left = right := by
  rw [← ofLittleEndian_littleEndian leftFits, equal, ofLittleEndian_littleEndian rightFits]

/-- Read a `width`-byte little-endian integer from the front of the input. -/
def readLittleEndian (width : Nat) (input : List UInt8) : Option (Nat × List UInt8) :=
  if width ≤ input.length then
    some (ofLittleEndian (input.take width), input.drop width)
  else
    none

theorem readLittleEndian_eq_some_iff {width value : Nat} {input rest : List UInt8} :
    readLittleEndian width input = some (value, rest) ↔
      value < 256 ^ width ∧ input = littleEndian width value ++ rest := by
  constructor
  · intro read
    unfold readLittleEndian at read
    split at read
    · rename_i enough
      cases read
      have taken : (input.take width).length = width := by simpa using enough
      constructor
      · simpa only [taken] using ofLittleEndian_lt (input.take width)
      · have rebuilt := littleEndian_ofLittleEndian (input.take width)
        rw [taken] at rebuilt
        rw [rebuilt, List.take_append_drop]
    · contradiction
  · rintro ⟨fits, rfl⟩
    have taken : (littleEndian width value ++ rest).take width = littleEndian width value := by
      simp
    simp [readLittleEndian, taken, ofLittleEndian_littleEndian fits]

/-! ## The compact format on natural numbers -/

namespace Compact

/-- Number of bytes of the shortest little-endian form. -/
def byteLength (value : Nat) : Nat :=
  Nat.log 256 value + 1

/-- Largest number of bytes mode 3 can announce. -/
def maxWidth : Nat := 67

/-- The shortest of the four modes that holds the value. -/
def encode (value : Nat) : List UInt8 :=
  if value < 2 ^ 6 then
    littleEndian 1 (4 * value)
  else if value < 2 ^ 14 then
    littleEndian 2 (4 * value + 1)
  else if value < 2 ^ 30 then
    littleEndian 4 (4 * value + 2)
  else
    UInt8.ofNat (4 * (byteLength value - 4) + 3) :: littleEndian (byteLength value) value

/-- Modes 0 to 2: the value shares its first byte with the mode. -/
def decodeFixed (width least : Nat) (input : List UInt8) : Option (Nat × List UInt8) :=
  (readLittleEndian width input).bind fun (word, rest) =>
    if least ≤ word / 4 then some (word / 4, rest) else none

/-- Mode 3: the value follows the first byte, without a leading zero byte. -/
def decodeWide (width : Nat) (input : List UInt8) : Option (Nat × List UInt8) :=
  (readLittleEndian width input).bind fun (value, rest) =>
    if 2 ^ 30 ≤ value ∧ 256 ^ (width - 1) ≤ value then some (value, rest) else none

/-- Read one value; a longer mode than the value needs is refused. -/
def decode : List UInt8 → Option (Nat × List UInt8)
  | [] => none
  | first :: rest =>
      if first.toNat % 4 = 0 then
        decodeFixed 1 0 (first :: rest)
      else if first.toNat % 4 = 1 then
        decodeFixed 2 (2 ^ 6) (first :: rest)
      else if first.toNat % 4 = 2 then
        decodeFixed 4 (2 ^ 14) (first :: rest)
      else
        decodeWide (first.toNat / 4 + 4) rest

theorem decode_cons_of_mode_zero {first : UInt8} (mode : first.toNat % 4 = 0)
    (rest : List UInt8) : decode (first :: rest) = decodeFixed 1 0 (first :: rest) := by
  rw [decode, if_pos mode]

theorem decode_cons_of_mode_one {first : UInt8} (mode : first.toNat % 4 = 1)
    (rest : List UInt8) : decode (first :: rest) = decodeFixed 2 (2 ^ 6) (first :: rest) := by
  rw [decode, if_neg (by omega), if_pos mode]

theorem decode_cons_of_mode_two {first : UInt8} (mode : first.toNat % 4 = 2)
    (rest : List UInt8) : decode (first :: rest) = decodeFixed 4 (2 ^ 14) (first :: rest) := by
  rw [decode, if_neg (by omega), if_neg (by omega), if_pos mode]

theorem decode_cons_of_mode_three {first : UInt8} (mode : first.toNat % 4 = 3)
    (rest : List UInt8) : decode (first :: rest) = decodeWide (first.toNat / 4 + 4) rest := by
  rw [decode, if_neg (by omega), if_neg (by omega), if_neg (by omega)]

theorem encode_of_lt_two_pow_six {value : Nat} (small : value < 2 ^ 6) :
    encode value = littleEndian 1 (4 * value) :=
  if_pos small

theorem encode_of_lt_two_pow_fourteen {value : Nat}
    (least : 2 ^ 6 ≤ value) (small : value < 2 ^ 14) :
    encode value = littleEndian 2 (4 * value + 1) := by
  rw [encode, if_neg (Nat.not_lt.mpr least), if_pos small]

theorem encode_of_lt_two_pow_thirty {value : Nat}
    (least : 2 ^ 14 ≤ value) (small : value < 2 ^ 30) :
    encode value = littleEndian 4 (4 * value + 2) := by
  rw [encode, if_neg (by omega), if_neg (by omega), if_pos small]

theorem encode_of_two_pow_thirty_le {value : Nat} (large : 2 ^ 30 ≤ value) :
    encode value =
      UInt8.ofNat (4 * (byteLength value - 4) + 3) :: littleEndian (byteLength value) value := by
  rw [encode, if_neg (by omega), if_neg (by omega), if_neg (by omega)]

/-- The byte length is the only width in which a positive value fits without a
leading zero byte. -/
theorem byteLength_eq_iff {width value : Nat} (positive : 0 < value) (width_pos : 0 < width) :
    byteLength value = width ↔ 256 ^ (width - 1) ≤ value ∧ value < 256 ^ width := by
  rcases Nat.exists_eq_succ_of_ne_zero width_pos.ne' with ⟨exponent, rfl⟩
  have log_eq := Nat.log_eq_iff (b := 256) (m := exponent) (n := value)
    (Or.inr ⟨by decide, positive.ne'⟩)
  simpa [byteLength] using log_eq

/-- What fits in four bytes or more takes at most one byte more. -/
theorem length_encode_le {width value : Nat} (four_le : 4 ≤ width) (fits : value < 256 ^ width) :
    (encode value).length ≤ width + 1 := by
  rcases Nat.lt_or_ge value (2 ^ 6) with one | least
  · rw [encode_of_lt_two_pow_six one, length_littleEndian]
    omega
  rcases Nat.lt_or_ge value (2 ^ 14) with two | least
  · rw [encode_of_lt_two_pow_fourteen (by omega) two, length_littleEndian]
    omega
  rcases Nat.lt_or_ge value (2 ^ 30) with four | large
  · rw [encode_of_lt_two_pow_thirty (by omega) four, length_littleEndian]
    omega
  · have log_lt := Nat.log_lt_of_lt_pow (by omega) fits
    rw [encode_of_two_pow_thirty_le large, List.length_cons, length_littleEndian, byteLength]
    omega

theorem decodeFixed_eq_some_iff {width least value : Nat} {input rest : List UInt8} :
    decodeFixed width least input = some (value, rest) ↔
      least ≤ value ∧ ∃ word, word < 256 ^ width ∧ word / 4 = value ∧
        input = littleEndian width word ++ rest := by
  unfold decodeFixed
  rw [Option.bind_eq_some_iff]
  constructor
  · rintro ⟨⟨word, unread⟩, read, result⟩
    obtain ⟨fits, input_eq⟩ := readLittleEndian_eq_some_iff.mp read
    dsimp only at result
    split at result
    · rename_i enough
      cases result
      exact ⟨enough, word, fits, rfl, input_eq⟩
    · contradiction
  · rintro ⟨enough, word, fits, rfl, input_eq⟩
    exact ⟨(word, rest), readLittleEndian_eq_some_iff.mpr ⟨fits, input_eq⟩, if_pos enough⟩

theorem decodeWide_eq_some_iff {width value : Nat} {input rest : List UInt8} :
    decodeWide width input = some (value, rest) ↔
      (2 ^ 30 ≤ value ∧ 256 ^ (width - 1) ≤ value) ∧ value < 256 ^ width ∧
        input = littleEndian width value ++ rest := by
  unfold decodeWide
  rw [Option.bind_eq_some_iff]
  constructor
  · rintro ⟨⟨word, unread⟩, read, result⟩
    dsimp only at result
    split at result
    · rename_i shortest
      cases result
      exact ⟨shortest, readLittleEndian_eq_some_iff.mp read⟩
    · contradiction
  · rintro ⟨shortest, fits, input_eq⟩
    exact ⟨(value, rest), readLittleEndian_eq_some_iff.mpr ⟨fits, input_eq⟩, if_pos shortest⟩

/-- The first byte of a fixed-width word carries the word's two low bits. -/
private theorem head_littleEndian_mod {width word : Nat} {first : UInt8} {tail rest : List UInt8}
    (equal : first :: tail = littleEndian (width + 1) word ++ rest) :
    first.toNat % 4 = word % 4 := by
  rw [littleEndian, List.cons_append, List.cons.injEq] at equal
  rw [equal.1, UInt8.toNat_ofNat']
  omega

/-- A decoded value is one the mode could announce, read from its encoding. -/
theorem eq_encode_append_of_decode {input rest : List UInt8} {value : Nat}
    (decoded : decode input = some (value, rest)) :
    value < 256 ^ maxWidth ∧ input = encode value ++ rest := by
  cases input with
  | nil => simp [decode] at decoded
  | cons first tail =>
      have first_lt : first.toNat < 256 := first.toNat_lt
      have small_pow : 2 ^ 30 ≤ 256 ^ maxWidth := by decide
      rw [decode] at decoded
      split_ifs at decoded with mode mode mode
      · obtain ⟨-, word, fits, rfl, input_eq⟩ := decodeFixed_eq_some_iff.mp decoded
        have word_mod := head_littleEndian_mod input_eq
        have word_eq : 4 * (word / 4) = word := by omega
        rw [encode_of_lt_two_pow_six (by omega), word_eq]
        exact ⟨by omega, input_eq⟩
      · obtain ⟨least, word, fits, rfl, input_eq⟩ := decodeFixed_eq_some_iff.mp decoded
        have word_mod := head_littleEndian_mod input_eq
        have word_eq : 4 * (word / 4) + 1 = word := by omega
        rw [encode_of_lt_two_pow_fourteen least (by omega), word_eq]
        exact ⟨by omega, input_eq⟩
      · obtain ⟨least, word, fits, rfl, input_eq⟩ := decodeFixed_eq_some_iff.mp decoded
        have word_mod := head_littleEndian_mod input_eq
        have word_eq : 4 * (word / 4) + 2 = word := by omega
        rw [encode_of_lt_two_pow_thirty least (by omega), word_eq]
        exact ⟨by omega, input_eq⟩
      · obtain ⟨⟨large, shortest⟩, fits, tail_eq⟩ := decodeWide_eq_some_iff.mp decoded
        have width_eq : byteLength value = first.toNat / 4 + 4 :=
          (byteLength_eq_iff (by omega) (by omega)).mpr ⟨shortest, fits⟩
        have first_eq : UInt8.ofNat (4 * (byteLength value - 4) + 3) = first := by
          apply UInt8.toNat_inj.mp
          rw [UInt8.toNat_ofNat', width_eq]
          omega
        constructor
        · exact lt_of_lt_of_le fits (Nat.pow_le_pow_right (by decide) (by unfold maxWidth; omega))
        · rw [encode_of_two_pow_thirty_le large, first_eq, width_eq, List.cons_append, tail_eq]

/-- Decoding undoes encoding, for every value that mode 3 can announce. -/
theorem decode_encode_append {value : Nat} (fits : value < 256 ^ maxWidth) (rest : List UInt8) :
    decode (encode value ++ rest) = some (value, rest) := by
  by_cases one : value < 2 ^ 6
  · rw [encode_of_lt_two_pow_six one]
    have read : decodeFixed 1 0 (littleEndian 1 (4 * value) ++ rest) = some (value, rest) :=
      decodeFixed_eq_some_iff.mpr ⟨by omega, 4 * value, by omega, by omega, rfl⟩
    have mode : (UInt8.ofNat (4 * value)).toNat % 4 = 0 := by
      rw [UInt8.toNat_ofNat']
      omega
    exact (decode_cons_of_mode_zero mode _).trans read
  by_cases two : value < 2 ^ 14
  · rw [encode_of_lt_two_pow_fourteen (by omega) two]
    have read : decodeFixed 2 (2 ^ 6) (littleEndian 2 (4 * value + 1) ++ rest) =
        some (value, rest) :=
      decodeFixed_eq_some_iff.mpr ⟨by omega, 4 * value + 1, by omega, by omega, rfl⟩
    have mode : (UInt8.ofNat (4 * value + 1)).toNat % 4 = 1 := by
      rw [UInt8.toNat_ofNat']
      omega
    exact (decode_cons_of_mode_one mode _).trans read
  by_cases four : value < 2 ^ 30
  · rw [encode_of_lt_two_pow_thirty (by omega) four]
    have read : decodeFixed 4 (2 ^ 14) (littleEndian 4 (4 * value + 2) ++ rest) =
        some (value, rest) :=
      decodeFixed_eq_some_iff.mpr ⟨by omega, 4 * value + 2, by omega, by omega, rfl⟩
    have mode : (UInt8.ofNat (4 * value + 2)).toNat % 4 = 2 := by
      rw [UInt8.toNat_ofNat']
      omega
    exact (decode_cons_of_mode_two mode _).trans read
  · have large : 2 ^ 30 ≤ value := Nat.not_lt.mp four
    obtain ⟨shortest, value_lt⟩ :
        256 ^ (byteLength value - 1) ≤ value ∧ value < 256 ^ byteLength value :=
      (byteLength_eq_iff (by omega) (Nat.succ_pos _)).mp rfl
    have least_width : 4 ≤ byteLength value := by
      by_contra narrow
      have : 256 ^ byteLength value ≤ 256 ^ 3 :=
        Nat.pow_le_pow_right (by decide) (by omega)
      omega
    have most_width : byteLength value ≤ maxWidth := by
      by_contra wide
      have : 256 ^ maxWidth ≤ 256 ^ (byteLength value - 1) :=
        Nat.pow_le_pow_right (by decide) (by omega)
      omega
    have first_eq : (UInt8.ofNat (4 * (byteLength value - 4) + 3)).toNat =
        4 * (byteLength value - 4) + 3 := by
      rw [UInt8.toNat_ofNat']
      unfold maxWidth at most_width
      omega
    have mode : (UInt8.ofNat (4 * (byteLength value - 4) + 3)).toNat % 4 = 3 := by omega
    have width_eq : (4 * (byteLength value - 4) + 3) / 4 + 4 = byteLength value := by omega
    rw [encode_of_two_pow_thirty_le large, List.cons_append,
      decode_cons_of_mode_three mode, first_eq, width_eq]
    exact decodeWide_eq_some_iff.mpr ⟨⟨large, shortest⟩, value_lt, rfl⟩

theorem decode_eq_some_iff {input rest : List UInt8} {value : Nat} :
    decode input = some (value, rest) ↔
      value < 256 ^ maxWidth ∧ input = encode value ++ rest := by
  constructor
  · exact eq_encode_append_of_decode
  · rintro ⟨fits, rfl⟩
    exact decode_encode_append fits rest

end Compact

/-! ## Bounded integer types -/

/-- Compact encoding of the numbers below a bound. -/
def compactBelow (bound : Nat) (bound_le : bound ≤ 256 ^ Compact.maxWidth) :
    Codec { value : Nat // value < bound } where
  encode value := Compact.encode value.1
  decode input := (Compact.decode input).bind fun (value, rest) =>
    if fits : value < bound then some (⟨value, fits⟩, rest) else none
  decode_encode_append value rest := by
    rw [Compact.decode_encode_append (lt_of_lt_of_le value.2 bound_le)]
    simp [value.2]
  eq_encode_append := by
    intro input value rest decoded
    rcases Option.bind_eq_some_iff.mp decoded with ⟨⟨word, unread⟩, read, result⟩
    dsimp only at result
    split at result
    · cases result
      exact (Compact.eq_encode_append_of_decode read).2
    · contradiction

/-- `u32` as the numbers below `2 ^ 32`. -/
def uint32Equiv : { value : Nat // value < 2 ^ 32 } ≃ UInt32 where
  toFun value := UInt32.ofNat value.1
  invFun word := ⟨word.toNat, word.toNat_lt⟩
  left_inv value := Subtype.ext (UInt32.toNat_ofNat_of_lt' value.2)
  right_inv _ := UInt32.ofNat_toNat

/-- `u64` as the numbers below `2 ^ 64`. -/
def uint64Equiv : { value : Nat // value < 2 ^ 64 } ≃ UInt64 where
  toFun value := UInt64.ofNat value.1
  invFun word := ⟨word.toNat, word.toNat_lt⟩
  left_inv value := Subtype.ext (UInt64.toNat_ofNat_of_lt' value.2)
  right_inv _ := UInt64.ofNat_toNat

/-- A bit vector as the numbers below its modulus. -/
def bitVecEquiv (width : Nat) : { value : Nat // value < 2 ^ width } ≃ BitVec width where
  toFun value := BitVec.ofNatLT value.1 value.2
  invFun word := ⟨word.toNat, word.isLt⟩
  left_inv _ := rfl
  right_inv _ := rfl

/-- Compact `u32`. -/
def compactU32 : Codec UInt32 :=
  (compactBelow (2 ^ 32) (by decide)).congr uint32Equiv

/-- Compact `u64`. -/
def compactU64 : Codec UInt64 :=
  (compactBelow (2 ^ 64) (by decide)).congr uint64Equiv

/-- Compact `u128`. -/
def compactU128 : Codec (BitVec 128) :=
  (compactBelow (2 ^ 128) (by decide)).congr (bitVecEquiv 128)

@[simp]
theorem compactU32_encode (value : UInt32) :
    compactU32.encode value = Compact.encode value.toNat := rfl

@[simp]
theorem compactU64_encode (value : UInt64) :
    compactU64.encode value = Compact.encode value.toNat := rfl

@[simp]
theorem compactU128_encode (value : BitVec 128) :
    compactU128.encode value = Compact.encode value.toNat := rfl

example : Compact.encode 1000 = [0xa1, 0x0f] := by decide

end Codec
