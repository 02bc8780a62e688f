import QuantusWasm.Ext.Extrinsic
import QuantusWasm.Codec.Hex
import Mathlib.Data.List.DropRight

/-!
# Parsers of the wasm bindings

The string parsers of `src/lib.rs`, with the standard-library functions they
are built from.
-/

namespace QuantusWasm

/-- What a JavaScript caller catches. -/
inductive Thrown where
  | typeError (message : String)
  | jsError (message : String)
  deriving DecidableEq

namespace Wasm

open Ext

/-- Unicode `White_Space`. -/
def isWhitespace (char : Char) : Bool :=
  (9 ≤ char.toNat && char.toNat ≤ 13) || char.toNat = 0x20 || char.toNat = 0x85 ||
    char.toNat = 0xA0 || char.toNat = 0x1680 ||
    (0x2000 ≤ char.toNat && char.toNat ≤ 0x200A) || char.toNat = 0x2028 ||
    char.toNat = 0x2029 || char.toNat = 0x202F || char.toNat = 0x205F || char.toNat = 0x3000

/-- `str::trim`. -/
def trim (text : List Char) : List Char :=
  (text.dropWhile isWhitespace).rdropWhile isWhitespace

/-- `strip_prefix("0x")`. -/
def stripHexPrefix : List Char → Option (List Char)
  | '0' :: 'x' :: rest => some rest
  | _ => none

/-- `<[u8; 32]>::try_from`. -/
def toBytes32 (content : List UInt8) : Option Bytes32 :=
  if fits : content.length = 32 then some ⟨content, fits⟩ else none

/-- The number a digit string of base ten stands for, signs excluded. -/
def decimalValue (text : List Char) : Option Nat :=
  if text ≠ [] ∧ text.all Char.isDigit then some (Nat.ofDigitChars 10 text 0) else none

/-- `str::parse::<u128>`: digits, optionally after a plus sign, that fit. -/
def u128FromStr (text : List Char) : Option (BitVec 128) := do
  let value ← decimalValue (match text with
    | '+' :: digits => digits
    | digits => digits)
  if value < 2 ^ 128 then some (BitVec.ofNat 128 value) else none

/-- An omitted scheme is the default. -/
def parseScheme : Option (List Char) → Except Thrown Scheme
  | none => .ok default
  | some name =>
      match Scheme.parse name with
      | some scheme => .ok scheme
      | none =>
          .error (.jsError ("scheme: expected \"ml-dsa-87\" or \"ml-dsa-65\", got \"" ++
            String.ofList name ++ "\""))

/-- A recipient: hexadecimal digits behind `0x`, or an SS58 address. -/
def parseAccountId (crates : Crates) (text : List Char) : Except Thrown AccountId32 :=
  let text := trim text
  match stripHexPrefix text with
  | some digits =>
      match Hex.decode digits with
      | none => .error (.jsError "recipient: invalid hex")
      | some content =>
          match toBytes32 content with
          | none => .error (.jsError "recipient: expected 32 bytes")
          | some account => .ok account
  | none =>
      match crates.fromSs58checkWithVersion text with
      | some (account, _) => .ok account
      | none => .error (.jsError "recipient: invalid SS58 address")

/-- A hash: hexadecimal digits, with or without `0x`. -/
def parseH256 (text : List Char) (field : String) : Except Thrown Bytes32 :=
  let text := trim text
  let digits := (stripHexPrefix text).getD text
  match Hex.decode digits with
  | none => .error (.jsError (field ++ ": invalid hex"))
  | some content =>
      match toBytes32 content with
      | none => .error (.jsError (field ++ ": expected 32 bytes"))
      | some hash => .ok hash

/-- An amount in decimal digits. -/
def parseU128 (text : List Char) (field : String) : Except Thrown (BitVec 128) :=
  match u128FromStr (trim text) with
  | some value => .ok value
  | none => .error (.jsError (field ++ ": invalid u128 decimal string"))

/-! ## What the parsers accept -/

theorem stripHexPrefix_eq_some_iff {text digits : List Char} :
    stripHexPrefix text = some digits ↔ text = '0' :: 'x' :: digits := by
  unfold stripHexPrefix
  split
  · simp
  · rename_i other
    simp only [reduceCtorEq, false_iff]
    exact fun equal => other digits equal

theorem toBytes32_eq_some_iff {content : List UInt8} {value : Bytes32} :
    toBytes32 content = some value ↔ content = value.toList := by
  unfold toBytes32
  constructor
  · intro found
    split_ifs at found with fits
    cases found
    rfl
  · rintro rfl
    exact dif_pos value.toList_length

/-- Digits are read as 32 bytes exactly when they spell them out, whatever the
two errors are. -/
theorem readBytes32_eq_ok_iff {digits : List Char} {invalid wrongLength : Thrown}
    {value : Bytes32} :
    (match Hex.decode digits with
      | none => (.error invalid : Except Thrown Bytes32)
      | some content =>
          match toBytes32 content with
          | none => .error wrongLength
          | some value => .ok value) = .ok value ↔
      Hex.decode digits = some value.toList := by
  cases decoded : Hex.decode digits with
  | none => simp
  | some content =>
      rw [Option.some.injEq, ← toBytes32_eq_some_iff]
      cases found : toBytes32 content <;> simp [found]

/-- An account is accepted as prefixed digits or as an address of whatever
network. -/
theorem parseAccountId_eq_ok_iff {crates : Crates} {text : List Char} {account : AccountId32} :
    parseAccountId crates text = .ok account ↔
      (∃ digits, trim text = '0' :: 'x' :: digits ∧ Hex.decode digits = some account.toList) ∨
      (stripHexPrefix (trim text) = none ∧
        ∃ network, crates.fromSs58checkWithVersion (trim text) = some (account, network)) := by
  simp only [← stripHexPrefix_eq_some_iff, parseAccountId]
  cases stripHexPrefix (trim text) with
  | some digits => simpa using readBytes32_eq_ok_iff
  | none =>
      cases crates.fromSs58checkWithVersion (trim text) with
      | none => simp
      | some pair => simp [Prod.ext_iff]

/-- The text is the core with white space around it. -/
def IsPadded (text core : List Char) : Prop :=
  ∃ front back, (∀ char ∈ front, isWhitespace char = true) ∧
    (∀ char ∈ back, isWhitespace char = true) ∧ text = front ++ core ++ back

/-- Trimming undoes padding of text without white space. -/
theorem trim_eq_iff {text core : List Char} (plain : ∀ char ∈ core, isWhitespace char = false) :
    trim text = core ↔ IsPadded text core := by
  constructor
  · rintro rfl
    refine ⟨text.takeWhile isWhitespace, (text.dropWhile isWhitespace).rtakeWhile isWhitespace,
      fun char => List.mem_takeWhile_imp, fun char => List.mem_rtakeWhile_imp, ?_⟩
    rw [trim, List.append_assoc, List.rdropWhile_append_rtakeWhile,
      List.takeWhile_append_dropWhile]
  · rintro ⟨front, back, frontWhite, backWhite, rfl⟩
    rw [trim, List.append_assoc, List.dropWhile_append_of_pos frontWhite]
    cases core with
    | nil => rw [List.nil_append, List.dropWhile_eq_nil_iff.mpr backWhite, List.rdropWhile_nil]
    | cons first rest =>
        have notBefore : (first :: rest ++ back).dropWhile isWhitespace = first :: rest ++ back :=
          List.dropWhile_cons_of_neg (by simp [plain])
        have notAfter : (first :: rest).rdropWhile isWhitespace = first :: rest := by
          rw [List.rdropWhile_eq_self_iff]
          intro nonempty
          rw [plain _ (List.getLast_mem nonempty)]
          exact Bool.false_ne_true
        rw [notBefore, List.rdropWhile, List.reverse_append, List.dropWhile_append_of_pos
          fun char mem => backWhite char (List.mem_reverse.mp mem)]
        exact notAfter

/-- Text without white space is not trimmed. -/
theorem trim_eq_self {text : List Char} (plain : ∀ char ∈ text, isWhitespace char = false) :
    trim text = text :=
  (trim_eq_iff plain).mpr ⟨[], [], by simp⟩

theorem isWhitespace_of_hex {char : Char} (digit : (Hex.digitValue char).isSome) :
    isWhitespace char = false := by
  exact Ecma.Text.of_code_lt
    (fun char => (Hex.digitValue char).isSome → isWhitespace char = false)
    (Hex.toNat_lt_of_isSome digit) (by decide) digit

/-- Bytes as prefixed digits. -/
def hexText (content : List UInt8) : List Char :=
  '0' :: 'x' :: Hex.encode content

theorem eq_or_isSome_of_mem_prefixed {digits : List Char} (isDigits : Hex.IsDigits digits)
    {char : Char} (mem : char ∈ '0' :: 'x' :: digits) :
    char = 'x' ∨ (Hex.digitValue char).isSome := by
  rcases List.mem_cons.mp mem with rfl | mem
  · exact Or.inr (by decide)
  rcases List.mem_cons.mp mem with rfl | mem
  · exact Or.inl rfl
  · exact Or.inr (isDigits char mem)

theorem isWhitespace_of_mem_prefixed {digits : List Char} (isDigits : Hex.IsDigits digits) :
    ∀ char ∈ '0' :: 'x' :: digits, isWhitespace char = false := by
  intro char mem
  rcases eq_or_isSome_of_mem_prefixed isDigits mem with rfl | digit
  · decide
  · exact isWhitespace_of_hex digit

theorem trim_hexText (content : List UInt8) : trim (hexText content) = hexText content :=
  trim_eq_self (isWhitespace_of_mem_prefixed (Hex.encode_isDigits content))

theorem isAscii_hexText (content : List UInt8) : Ecma.Text.IsAscii (hexText content) := by
  intro char mem
  rcases eq_or_isSome_of_mem_prefixed (Hex.encode_isDigits content) mem with rfl | digit
  · decide
  · exact lt_trans (Hex.toNat_lt_of_isSome digit) (by decide)

theorem parseAccountId_hexText (crates : Crates) (account : AccountId32) :
    parseAccountId crates (hexText account.toList) = .ok account :=
  parseAccountId_eq_ok_iff.mpr
    (Or.inl ⟨_, trim_hexText account.toList, Hex.decode_encode account.toList⟩)

theorem parseH256_hexText_iff {content : List UInt8} {field : String} {hash : Bytes32} :
    parseH256 (hexText content) field = .ok hash ↔ content = hash.toList := by
  have stripped : stripHexPrefix (hexText content) = some (Hex.encode content) := rfl
  refine readBytes32_eq_ok_iff.trans ?_
  rw [trim_hexText, stripped, Option.getD_some, Hex.decode_encode, Option.some.injEq]

theorem parseH256_hexText (hash : Bytes32) (field : String) :
    parseH256 (hexText hash.toList) field = .ok hash :=
  parseH256_hexText_iff.mpr rfl

/-! ## Hashes -/

/-- Hexadecimal digits of the bytes in either case, with or without a prefix, and
with white space around them. -/
def Spells (text : List Char) (content : List UInt8) : Prop :=
  ∃ digits, Hex.IsHexOf content digits ∧
    (IsPadded text digits ∨ IsPadded text ('0' :: 'x' :: digits))

/-- A text of a hash. -/
def HashText (text : List Char) (hash : Bytes32) : Prop :=
  Spells text hash.toList

/-- No digits begin with the prefix. -/
theorem stripHexPrefix_getD_eq_iff {text digits : List Char} (isDigits : Hex.IsDigits digits) :
    (stripHexPrefix text).getD text = digits ↔ text = digits ∨ text = '0' :: 'x' :: digits := by
  constructor
  · rintro rfl
    cases stripped : stripHexPrefix text with
    | none => exact .inl rfl
    | some rest => exact .inr (stripHexPrefix_eq_some_iff.mp stripped)
  · rintro (rfl | rfl)
    · cases stripped : stripHexPrefix text with
      | none => rfl
      | some rest =>
          rw [stripHexPrefix_eq_some_iff.mp stripped] at isDigits
          exact absurd (isDigits 'x' (by simp)) (by decide)
    · rfl

theorem trim_eq_or_prefixed_iff {text digits : List Char} (isDigits : Hex.IsDigits digits) :
    trim text = digits ∨ trim text = '0' :: 'x' :: digits ↔
      IsPadded text digits ∨ IsPadded text ('0' :: 'x' :: digits) := by
  rw [trim_eq_iff fun char mem => isWhitespace_of_hex (isDigits char mem),
    trim_eq_iff (isWhitespace_of_mem_prefixed isDigits)]

/-- The decoder reads exactly the bytes that a text spells. -/
theorem decode_eq_some_iff_spells {text : List Char} {content : List UInt8} :
    Hex.decode ((stripHexPrefix (trim text)).getD (trim text)) = some content ↔
      Spells text content := by
  rw [Hex.decode_eq_some_iff]
  constructor
  · intro hex
    refine ⟨_, hex, (trim_eq_or_prefixed_iff hex.isDigits).mp ?_⟩
    exact (stripHexPrefix_getD_eq_iff hex.isDigits).mp rfl
  · rintro ⟨digits, hex, padded⟩
    rw [← trim_eq_or_prefixed_iff hex.isDigits] at padded
    rw [(stripHexPrefix_getD_eq_iff hex.isDigits).mpr padded]
    exact hex

/-- A text spells at most one byte string. -/
theorem Spells.unique {text : List Char} {first second : List UInt8}
    (firstSpelled : Spells text first) (secondSpelled : Spells text second) : first = second := by
  rw [← decode_eq_some_iff_spells] at firstSpelled secondSpelled
  exact Option.some.inj (firstSpelled.symm.trans secondSpelled)

/-- The parser accepts exactly the texts of the hash, whatever the field. -/
theorem parseH256_eq_ok_iff {text : List Char} {field : String} {hash : Bytes32} :
    parseH256 text field = .ok hash ↔ HashText text hash :=
  readBytes32_eq_ok_iff.trans decode_eq_some_iff_spells

/-! ## Decimals -/

/-- Decimal digits, optionally after a plus sign, and the number they stand
for. -/
def DecimalText (text : List Char) (value : Nat) : Prop :=
  ∃ digits, (text = digits ∨ text = '+' :: digits) ∧ digits ≠ [] ∧
    (∀ char ∈ digits, char.isDigit) ∧ Nat.ofDigitChars 10 digits 0 = value

theorem decimalValue_eq_some_iff {text : List Char} {value : Nat} :
    decimalValue text = some value ↔
      text ≠ [] ∧ (∀ char ∈ text, char.isDigit) ∧ Nat.ofDigitChars 10 text 0 = value := by
  unfold decimalValue
  simp only [List.all_eq_true]
  split_ifs with digits
  · rw [Option.some.injEq]
    exact ⟨fun equal => ⟨digits.1, digits.2, equal⟩, fun both => both.2.2⟩
  · constructor
    · intro absent
      contradiction
    · exact fun both => absurd ⟨both.1, both.2.1⟩ digits

/-- Only one of the two readings of a plus sign applies. -/
theorem decimalText_iff {text : List Char} {value : Nat} :
    DecimalText text value ↔ decimalValue (match text with
      | '+' :: digits => digits
      | digits => digits) = some value := by
  rw [decimalValue_eq_some_iff]
  constructor
  · rintro ⟨digits, rfl | rfl, rest⟩
    · split
      · exact absurd (rest.2.1 '+' (List.mem_cons_self ..)) (by decide)
      · exact rest
    · exact rest
  · intro digits
    split at digits
    · exact ⟨_, Or.inr rfl, digits⟩
    · exact ⟨_, Or.inl rfl, digits⟩

/-- The parser accepts exactly the decimals that fit. -/
theorem u128FromStr_eq_some_iff {text : List Char} {word : BitVec 128} :
    u128FromStr text = some word ↔ DecimalText text word.toNat := by
  simp only [u128FromStr, Option.bind_eq_bind, Option.bind_eq_some_iff, ← decimalText_iff]
  constructor
  · rintro ⟨value, decimal, fitting⟩
    split_ifs at fitting with fits
    cases fitting
    rw [BitVec.toNat_ofNat, Nat.mod_eq_of_lt fits]
    exact decimal
  · intro decimal
    refine ⟨word.toNat, decimal, ?_⟩
    rw [if_pos word.isLt, BitVec.ofNat_toNat, BitVec.setWidth_eq]

theorem parseU128_eq_ok_iff {text : List Char} {field : String} {word : BitVec 128} :
    parseU128 text field = .ok word ↔ DecimalText (trim text) word.toNat := by
  rw [← u128FromStr_eq_some_iff, parseU128]
  cases u128FromStr (trim text) <;> simp

theorem isWhitespace_of_isDigit {char : Char} (digit : char.isDigit) :
    isWhitespace char = false := by
  have code_le : char.toNat ≤ 57 := by
    simp only [Char.isDigit, Bool.and_eq_true, decide_eq_true_eq] at digit
    exact digit.2
  exact Ecma.Text.of_code_lt (fun char => char.isDigit → isWhitespace char = false)
    (Nat.lt_succ_of_le code_le) (by decide) digit

theorem isDigit_of_mem_toDigits {natural : Nat} {char : Char}
    (mem : char ∈ Nat.toDigits 10 natural) : char.isDigit :=
  Nat.isDigit_of_mem_toDigits (by decide) (by decide) mem

/-- Printed digits stand for the number printed and no other. -/
theorem decimalText_toDigits_iff {natural value : Nat} :
    DecimalText (trim (Nat.toDigits 10 natural)) value ↔ value = natural := by
  rw [trim_eq_self fun char mem => isWhitespace_of_isDigit (isDigit_of_mem_toDigits mem)]
  constructor
  · rintro ⟨digits, rfl | plus, _, _, value_eq⟩
    · rw [← value_eq, Nat.ofDigitChars_ten_toDigits]
    · have mem : '+' ∈ Nat.toDigits 10 natural := by
        rw [plus]
        exact List.mem_cons_self ..
      exact absurd (isDigit_of_mem_toDigits mem) (by decide)
  · rintro rfl
    exact ⟨_, Or.inl rfl, Nat.toDigits_ne_nil, fun char => isDigit_of_mem_toDigits,
      Nat.ofDigitChars_ten_toDigits⟩

/-- A character that trimming cannot drop. -/
theorem mem_trim {text : List Char} {char : Char} (mem : char ∈ text)
    (plain : isWhitespace char = false) : char ∈ trim text := by
  have kept : ∀ {text : List Char}, char ∈ text → char ∈ text.dropWhile isWhitespace := by
    intro text mem
    rw [← @List.takeWhile_append_dropWhile _ isWhitespace text, List.mem_append] at mem
    rcases mem with taken | kept
    · rw [List.mem_takeWhile_imp taken] at plain
      contradiction
    · exact kept
  rw [trim, List.rdropWhile, List.mem_reverse]
  exact kept (List.mem_reverse.mpr (kept mem))

/-- A text with any other character is no decimal. -/
theorem not_decimalText_of_mem {text : List Char} {char : Char} (mem : char ∈ text)
    (plain : isWhitespace char = false) (notDigit : char.isDigit = false) (notPlus : char ≠ '+')
    (value : Nat) : ¬DecimalText (trim text) value := by
  rintro ⟨digits, text_eq, _, allDigits, _⟩
  have kept := mem_trim mem plain
  have inDigits : char ∈ digits := by
    rcases text_eq with same | plus
    · exact same ▸ kept
    · rw [plus] at kept
      exact List.mem_of_ne_of_mem notPlus kept
  rw [allDigits char inDigits] at notDigit
  contradiction

end Wasm

end QuantusWasm
