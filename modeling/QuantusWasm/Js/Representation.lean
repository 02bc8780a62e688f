import QuantusWasm.Js.Serve
import QuantusWasm.Runtime.Uniqueness

/-!
# Representations of hashes and calls

A hash is 32 bytes or text that Rust trims, strips and decodes; a call is bytes
or text that TypeScript checks itself, because the decoder behind it stops
silently at the first bad pair.  Both layers together accept exactly the
representations of a value, so calls that differ in representation only build
one context and sign one message.
-/

namespace QuantusWasm.Js

open Ecma Effect Ext

/-! ## Hashes -/

/-- The values that stand for a hash. -/
inductive RepresentsHash (hash : Bytes32) : Value → Prop
  | bytes : RepresentsHash hash (.uint8Array hash.toList)
  | text {text : Text} (written : Wasm.HashText text.toScalars hash) :
      RepresentsHash hash (.string text)

/-- A value passes both layers as the hash it represents, and no other value
passes. -/
theorem parseH256_toHex_iff {value : Value} {field : String} {hash : Bytes32} :
    (∃ text, toHex value field = .ok text ∧ Wasm.parseH256 text.toScalars field = .ok hash) ↔
      RepresentsHash hash value := by
  constructor
  · rintro ⟨text, given, parsed⟩
    cases value with
    | string content =>
        cases given
        exact .text (Wasm.parseH256_eq_ok_iff.mp parsed)
    | uint8Array content =>
        cases given
        change Wasm.parseH256 (Text.ofChars (Wasm.hexText content)).toScalars field = .ok hash
          at parsed
        rw [Text.toScalars_ofChars (Wasm.isAscii_hexText content),
          Wasm.parseH256_hexText_iff] at parsed
        rw [parsed]
        exact .bytes
    | undefined => contradiction
    | null => contradiction
    | boolean value => contradiction
    | number value => contradiction
    | bigint value => contradiction
    | other => contradiction
  · intro represents
    cases represents with
    | bytes =>
        refine ⟨Text.ofChars (Wasm.hexText hash.toList), rfl, ?_⟩
        rw [Text.toScalars_ofChars (Wasm.isAscii_hexText _)]
        exact Wasm.parseH256_hexText hash field
    | text written => exact ⟨_, rfl, Wasm.parseH256_eq_ok_iff.mpr written⟩

/-- A value represents one hash at most. -/
theorem RepresentsHash.unique {value : Value} {first second : Bytes32}
    (isFirst : RepresentsHash first value) (isSecond : RepresentsHash second value) :
    first = second := by
  obtain ⟨text, given, parsed⟩ := (@parseH256_toHex_iff value "" first).mpr isFirst
  obtain ⟨other, otherGiven, otherParsed⟩ := (@parseH256_toHex_iff value "" second).mpr isSecond
  cases given.symm.trans otherGiven
  exact Except.ok.inj (parsed.symm.trans otherParsed)

/-- The values that stand for a block hash, which may be omitted. -/
def RepresentsBlockHash (hash : Bytes32) (value : Value) : Prop :=
  if value = .undefined then hash = List.Vector.replicate 32 0 else RepresentsHash hash value

/-- An omitted block hash becomes the zero hash. -/
theorem parseOptional_blockHash_iff {value : Value} {hash : Bytes32} :
    (∃ text, unlessUndefined value none (fun value => (toHex value "blockHash").map some) =
        .ok text ∧
      Wasm.parseOptional (List.Vector.replicate 32 0)
        (fun text => Wasm.parseH256 text "blockHash") (text.map Text.toScalars) = .ok hash) ↔
      RepresentsBlockHash hash value := by
  unfold unlessUndefined RepresentsBlockHash
  split_ifs with omitted
  · constructor
    · rintro ⟨text, given, parsed⟩
      cases given
      exact (Except.ok.inj parsed).symm
    · rintro rfl
      exact ⟨none, rfl, rfl⟩
  · rw [← @parseH256_toHex_iff value "blockHash"]
    simp only [map_eq_ok_iff]
    constructor
    · rintro ⟨_, ⟨text, given, rfl⟩, parsed⟩
      exact ⟨text, given, parsed⟩
    · rintro ⟨text, given, parsed⟩
      exact ⟨some text, ⟨text, given, rfl⟩, parsed⟩

/-- The hashes of a context are those the parameters represent. -/
theorem representsHash_of_stages {crates : Crates} {params : CallParams} {argument : Option Text}
    {route : Route} {object : Wasm.ContextObject} {js : Wasm.JsSignContext} {ctx : SignContext}
    {scheme : Scheme} (encodes : EncodesContext params argument object)
    (delivers : Wasm.DeliversContext crates route object js)
    (builds : Wasm.BuildsContext js ctx scheme) :
    RepresentsHash ctx.genesisHash params.genesisHash ∧
      RepresentsBlockHash ctx.blockHash params.blockHash := by
  have genesisParsed := builds.genesisHash
  have blockParsed := builds.blockHash
  rw [delivers.genesisHash_eq] at genesisParsed
  rw [delivers.blockHash_eq] at blockParsed
  exact ⟨parseH256_toHex_iff.mp ⟨_, encodes.genesisHash, genesisParsed⟩,
    parseOptional_blockHash_iff.mp ⟨_, encodes.blockHash, blockParsed⟩⟩

/-! ## Calls -/

/-- The values that stand for the bytes of a call. -/
inductive RepresentsCall (bytes : List UInt8) : Value → Prop
  | bytes : RepresentsCall bytes (.uint8Array bytes)
  | bare {digits : List Char} (hex : Hex.IsHexOf bytes digits) :
      RepresentsCall bytes (.string (Text.ofChars digits))
  | prefixed {digits : List Char} (hex : Hex.IsHexOf bytes digits) :
      RepresentsCall bytes (.string (Text.ofChars ('0' :: 'x' :: digits)))

theorem hexDigitValue_ofNat {char : Char} (ascii : char.toNat < 128) :
    hexDigitValue (UInt16.ofNat char.toNat) = Hex.digitValue char := by
  have unit_eq : (UInt16.ofNat char.toNat).toNat = char.toNat := by
    rw [UInt16.toNat_ofNat']
    omega
  rw [hexDigitValue, unit_eq, if_pos ascii, Char.ofNat_toNat]

theorem hexDigitValue_of_digitValue {char : Char} {value : Nat}
    (known : Hex.digitValue char = some value) :
    hexDigitValue (UInt16.ofNat char.toNat) = some value := by
  have small := Hex.toNat_lt_of_isSome (Option.isSome_of_mem known)
  rw [hexDigitValue_ofNat (lt_trans small (by decide)), known]

/-- Text whose units are all hexadecimal digits. -/
def IsHexDigits (text : Text) : Prop :=
  ∀ unit ∈ text, (hexDigitValue unit).isSome

theorem isHexDigits_ofChars {digits : List Char} (isDigits : Hex.IsDigits digits) :
    IsHexDigits (Text.ofChars digits) := by
  intro unit mem
  rcases List.mem_map.mp mem with ⟨char, charMem, rfl⟩
  rcases Option.isSome_iff_exists.mp (isDigits char charMem) with ⟨value, known⟩
  rw [hexDigitValue_of_digitValue known]
  rfl

/-- A digit of the text is an ASCII character and a digit itself. -/
theorem ofNat_of_hexDigitValue {unit : UInt16} (digit : (hexDigitValue unit).isSome) :
    (Hex.digitValue (Char.ofNat unit.toNat)).isSome ∧
      UInt16.ofNat (Char.ofNat unit.toNat).toNat = unit := by
  unfold hexDigitValue at digit
  split_ifs at digit with small
  · have valid : unit.toNat.isValidChar := by
      simp only [Nat.isValidChar]
      omega
    rw [Text.toNat_ofNat_of_valid valid, UInt16.ofNat_toNat]
    exact ⟨digit, rfl⟩
  · contradiction

theorem exists_ofChars_of_isHexDigits {text : Text} (isDigits : IsHexDigits text) :
    ∃ digits, Hex.IsDigits digits ∧ text = Text.ofChars digits := by
  induction text with
  | nil => exact ⟨[], by simp [Hex.IsDigits], rfl⟩
  | cons unit rest ih =>
      obtain ⟨digits, restDigits, rest_eq⟩ := ih fun later mem =>
        isDigits later (List.mem_cons_of_mem _ mem)
      obtain ⟨digit, unit_eq⟩ := ofNat_of_hexDigitValue (isDigits unit (List.mem_cons_self ..))
      refine ⟨Char.ofNat unit.toNat :: digits, ?_, ?_⟩
      · intro char mem
        rcases List.mem_cons.mp mem with rfl | later
        · exact digit
        · exact restDigits char later
      · rw [Text.ofChars, List.map_cons, unit_eq, rest_eq]
        rfl

/-- On digit pairs the lenient decoder reads what the strict one does. -/
theorem bufferFromHex_ofChars {digits : List Char} {bytes : List UInt8}
    (decoded : Hex.decode digits = some bytes) : bufferFromHex (Text.ofChars digits) = bytes := by
  induction digits using Hex.decode.induct generalizing bytes with
  | case1 =>
      cases decoded
      rfl
  | case2 => simp [Hex.decode] at decoded
  | case3 high low rest ih =>
      simp only [Hex.decode, Option.bind_eq_bind, Option.bind_eq_some_iff, Option.pure_def,
        Option.some.injEq] at decoded
      rcases decoded with ⟨highValue, highKnown, lowValue, lowKnown, tail, tailRead, rfl⟩
      have highUnit := hexDigitValue_of_digitValue highKnown
      have lowUnit := hexDigitValue_of_digitValue lowKnown
      simp only [Text.ofChars, List.map_cons] at ih ⊢
      simp only [bufferFromHex, highUnit, lowUnit, ih tailRead]

/-- An even number of digits is read as the bytes it spells out. -/
theorem bufferFromHex_eq_iff {text : Text} {bytes : List UInt8} :
    (text.length % 2 = 0 ∧ IsHexDigits text) ∧ bufferFromHex text = bytes ↔
      ∃ digits, Hex.IsHexOf bytes digits ∧ text = Text.ofChars digits := by
  constructor
  · rintro ⟨⟨even, isDigits⟩, read⟩
    obtain ⟨digits, charDigits, rfl⟩ := exists_ofChars_of_isHexDigits isDigits
    have length_eq : digits.length = 2 * (digits.length / 2) := by
      rw [Text.ofChars, List.length_map] at even
      omega
    obtain ⟨content, decoded, _⟩ := Hex.exists_decode_of_isDigits charDigits length_eq
    rw [bufferFromHex_ofChars decoded] at read
    rw [← read]
    exact ⟨digits, Hex.decode_eq_some_iff.mp decoded, rfl⟩
  · rintro ⟨digits, hex, rfl⟩
    refine ⟨⟨?_, isHexDigits_ofChars hex.isDigits⟩,
      bufferFromHex_ofChars (Hex.decode_eq_some_iff.mpr hex)⟩
    rw [Text.ofChars, List.length_map, hex.length_eq, Nat.mul_mod_right]

/-- The prefix is no part of any digits. -/
theorem withoutHexPrefix_eq_iff {text digits : Text} (isDigits : IsHexDigits digits) :
    withoutHexPrefix text = digits ↔ text = digits ∨ text = 0x30 :: 0x78 :: digits := by
  constructor
  · rintro rfl
    unfold withoutHexPrefix
    split
    · split_ifs with isPrefix
      · rw [isPrefix.1, isPrefix.2]
        exact .inr rfl
      · exact .inl rfl
    · exact .inl rfl
  · rintro (rfl | rfl)
    · unfold withoutHexPrefix
      split
      · rw [if_neg]
        rintro ⟨_, rfl⟩
        exact absurd (isDigits 0x78 (by simp)) (by decide)
      · rfl
    · rfl

theorem toBytes_string_eq_ok_iff {text : Text} {field : String} {bytes : List UInt8} :
    toBytes (.string text) field = .ok bytes ↔
      ((withoutHexPrefix text).length % 2 = 0 ∧ IsHexDigits (withoutHexPrefix text)) ∧
        bufferFromHex (withoutHexPrefix text) = bytes := by
  have digits_iff : IsHexDigits (withoutHexPrefix text) ↔
      ¬((withoutHexPrefix text).any fun unit => (hexDigitValue unit).isNone) = true := by
    simp [IsHexDigits, Option.isSome_iff_ne_none]
  rw [digits_iff]
  simp only [toBytes]
  split_ifs with refused
  · simp only [false_iff]
    rintro ⟨⟨even, isDigits⟩, _⟩
    rcases refused with odd | bad
    · exact odd even
    · exact isDigits bad
  · rw [not_or, not_not] at refused
    simp [refused]

/-- A call is accepted as the bytes it represents, and as no others. -/
theorem toBytes_eq_ok_iff {value : Value} {field : String} {bytes : List UInt8} :
    toBytes value field = .ok bytes ↔ RepresentsCall bytes value := by
  constructor
  · intro given
    cases value with
    | uint8Array content =>
        cases given
        exact .bytes
    | string text =>
        rw [toBytes_string_eq_ok_iff, bufferFromHex_eq_iff] at given
        rcases given with ⟨digits, hex, stripped⟩
        rw [withoutHexPrefix_eq_iff (isHexDigits_ofChars hex.isDigits)] at stripped
        rcases stripped with rfl | rfl
        · exact .bare hex
        · exact .prefixed hex
    | undefined => contradiction
    | null => contradiction
    | boolean value => contradiction
    | number value => contradiction
    | bigint value => contradiction
    | other => contradiction
  · intro represents
    cases represents with
    | bytes => rfl
    | bare hex =>
        rw [toBytes_string_eq_ok_iff, bufferFromHex_eq_iff]
        exact ⟨_, hex, (withoutHexPrefix_eq_iff (isHexDigits_ofChars hex.isDigits)).mpr (.inl rfl)⟩
    | prefixed hex =>
        rw [toBytes_string_eq_ok_iff, bufferFromHex_eq_iff]
        exact ⟨_, hex, (withoutHexPrefix_eq_iff (isHexDigits_ofChars hex.isDigits)).mpr (.inr rfl)⟩

theorem RepresentsCall.unique {value : Value} {first second : List UInt8}
    (isFirst : RepresentsCall first value) (isSecond : RepresentsCall second value) :
    first = second :=
  Except.ok.inj (((@toBytes_eq_ok_iff value "" first).mpr isFirst).symm.trans
    ((@toBytes_eq_ok_iff value "" second).mpr isSecond))

/-- The strings that represent a call are an even number of digits each, not
counting the prefix. -/
theorem exists_representsCall_string_iff (text : Text) :
    (∃ bytes, RepresentsCall bytes (.string text)) ↔
      (withoutHexPrefix text).length % 2 = 0 ∧ IsHexDigits (withoutHexPrefix text) := by
  constructor
  · rintro ⟨bytes, represents⟩
    exact (toBytes_string_eq_ok_iff.mp ((@toBytes_eq_ok_iff _ "" _).mpr represents)).1
  · intro accepted
    exact ⟨_, (@toBytes_eq_ok_iff _ "" _).mp (toBytes_string_eq_ok_iff.mpr ⟨accepted, rfl⟩)⟩

end QuantusWasm.Js
