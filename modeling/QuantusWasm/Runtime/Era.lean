import QuantusWasm.Ext.Era
import QuantusWasm.Codec.Core

/-!
# The runtime's era decoder

`sp_runtime::generic::Era` as it decodes.  It accepts exactly the encodings of
storable eras, so together with the signer's encoder it is a codec.
-/

namespace QuantusWasm.Runtime

open Ext Codec

/-- The era of a sixteen-bit word, unless its period or phase is out of range. -/
def eraOfWord (encoded : Nat) : Option Era :=
  let period := 2 <<< (encoded % 2 ^ 4)
  let quantizeFactor := max (period >>> 12) 1
  let phase := (encoded >>> 4) * quantizeFactor
  if 4 ≤ period ∧ phase < period then
    some (.Mortal (UInt64.ofNat period) (UInt64.ofNat phase))
  else
    none

/-- `Decode` of a byte. -/
def readByte : List UInt8 → Option (UInt8 × List UInt8)
  | [] => none
  | byte :: rest => some (byte, rest)

/-- A zero byte is the immortal era; any other byte begins a word. -/
def decodeEra (input : List UInt8) : Option (Era × List UInt8) := do
  let (first, rest) ← readByte input
  if first = 0 then
    pure (.Immortal, rest)
  else
    let (second, rest) ← readByte rest
    let era ← eraOfWord (first.toNat + 256 * second.toNat)
    pure (era, rest)

private theorem period_of_word (encoded : Nat) :
    2 <<< (encoded % 2 ^ 4) = 2 ^ (encoded % 16 + 1) := by
  rw [Nat.shiftLeft_eq]
  exact (Nat.pow_succ' (n := encoded % 16)).symm

private theorem factor_of_word (encoded : Nat) :
    max (2 ^ (encoded % 16 + 1) >>> 12) 1 = 2 ^ (encoded % 16 + 1 - 12) := by
  rw [Nat.shiftRight_eq_div_pow]
  exact Periodic.max_two_pow_div _ 12

/-- A word decodes exactly to the window it stores. -/
theorem eraOfWord_eq_some_iff {encoded : Nat} {era : Era} :
    eraOfWord encoded = some era ↔
      ∃ window : Window, encoded = window.word ∧ era = window.toEra := by
  have units : encoded >>> 4 = encoded / 16 := Nat.shiftRight_eq_div_pow encoded 4
  simp only [eraOfWord, period_of_word, factor_of_word, units]
  constructor
  · intro decoded
    split_ifs at decoded with accepted
    cases decoded
    rcases accepted with ⟨period_ge, phase_lt⟩
    have exponent_ge : 2 ≤ encoded % 16 + 1 := by
      by_contra small
      have zero : encoded % 16 = 0 := by omega
      rw [zero] at period_ge
      contradiction
    have stored : encoded / 16 * 2 ^ (encoded % 16 + 1 - 12) / 2 ^ (encoded % 16 + 1 - 12) =
        encoded / 16 := Nat.mul_div_cancel _ (Nat.two_pow_pos _)
    refine ⟨⟨encoded % 16 + 1, encoded / 16 * 2 ^ (encoded % 16 + 1 - 12), exponent_ge, by omega,
      phase_lt, Nat.dvd_mul_left _ _⟩, ?_, rfl⟩
    change encoded = encoded % 16 + 1 - 1 + 16 * (_ / 2 ^ (encoded % 16 + 1 - 12))
    rw [stored]
    omega
  · rintro ⟨window, rfl, rfl⟩
    have exponent_ge := window.exponent_ge
    have exponent_le := window.exponent_le
    have exponent_eq : window.word % 16 + 1 = window.exponent := by
      rw [Window.word]
      omega
    have phase_eq : window.word / 16 * 2 ^ (window.exponent - 12) = window.phase := by
      have units_eq : window.word / 16 = window.phase / window.step := by
        rw [Window.word]
        omega
      rw [units_eq]
      exact Nat.div_mul_cancel window.step_dvd
    have period_ge : 4 ≤ 2 ^ window.exponent :=
      Nat.pow_le_pow_right (n := 2) (by decide) exponent_ge
    rw [exponent_eq, phase_eq, if_pos ⟨period_ge, window.phase_lt⟩]
    rfl

theorem readByte_eq_some_iff {input rest : List UInt8} {byte : UInt8} :
    readByte input = some (byte, rest) ↔ input = byte :: rest := by
  cases input <;> simp [readByte]

theorem littleEndian_two (word : Nat) :
    littleEndian 2 word = [UInt8.ofNat word, UInt8.ofNat (word / 256)] :=
  rfl

/-- The low byte of a word holds its exponent and is never zero. -/
theorem ofNat_word_ne_zero (window : Window) : UInt8.ofNat window.word ≠ 0 := by
  have exponent_ge := window.exponent_ge
  have exponent_le := window.exponent_le
  rw [← UInt8.toNat_inj.ne, UInt8.toNat_ofNat']
  change window.word % 256 ≠ 0
  rw [Window.word]
  omega

/-- The decoder accepts exactly the encodings of storable eras. -/
theorem decodeEra_eq_some_iff {input rest : List UInt8} {era : Era} :
    decodeEra input = some (era, rest) ↔ era.WellFormed ∧ input = era.encodeTo ++ rest := by
  constructor
  · intro decoded
    simp only [decodeEra, Option.bind_eq_bind, Option.bind_eq_some_iff] at decoded
    rcases decoded with ⟨⟨first, tail⟩, firstRead, decoded⟩
    rw [readByte_eq_some_iff] at firstRead
    subst firstRead
    dsimp only at decoded
    split_ifs at decoded with zero
    · cases decoded
      rw [zero]
      exact ⟨.immortal, rfl⟩
    · simp only [Option.bind_eq_some_iff] at decoded
      rcases decoded with ⟨⟨second, unread⟩, secondRead, found, word_eq, result⟩
      rw [readByte_eq_some_iff] at secondRead
      subst secondRead
      cases result
      obtain ⟨window, stored, rfl⟩ := eraOfWord_eq_some_iff.mp word_eq
      refine ⟨.mortal window, ?_⟩
      have bytes_eq : littleEndian 2 (first.toNat + 256 * second.toNat) = [first, second] := by
        simpa [ofLittleEndian] using littleEndian_ofLittleEndian [first, second]
      rw [Era.encodeTo_toEra, ← stored, bytes_eq]
      rfl
  · rintro ⟨wellFormed, rfl⟩
    cases wellFormed with
    | immortal => rfl
    | mortal window =>
        have word_lt := window.word_lt
        have nonzero := ofNat_word_ne_zero window
        have joined : (UInt8.ofNat window.word).toNat +
            256 * (UInt8.ofNat (window.word / 256)).toNat = window.word := by
          rw [UInt8.toNat_ofNat', UInt8.toNat_ofNat']
          omega
        rw [Era.encodeTo_toEra, littleEndian_two]
        simp only [List.cons_append, List.nil_append, decodeEra, readByte, Option.bind_eq_bind,
          Option.bind_some, if_neg nonzero, joined,
          eraOfWord_eq_some_iff.mpr ⟨window, rfl, rfl⟩, Option.pure_def]

/-- The storable eras. -/
abbrev StorableEra := { era : Era // era.WellFormed }

/-- `Encode` and `Decode` of an era. -/
def eraCodec : Codec StorableEra where
  encode era := era.1.encodeTo
  decode input :=
    match accepted : decodeEra input with
    | some (era, rest) => some (⟨era, (decodeEra_eq_some_iff.mp accepted).1⟩, rest)
    | none => none
  decode_encode_append era rest := by
    have read := decodeEra_eq_some_iff.mpr ⟨era.2, (rfl : era.1.encodeTo ++ rest = _)⟩
    split
    · simp_all
    · simp_all
  eq_encode_append := by
    intro input era rest decoded
    split at decoded
    · rename_i found unread accepted
      cases decoded
      exact (decodeEra_eq_some_iff.mp accepted).2
    · contradiction

@[simp]
theorem eraCodec_encode (era : StorableEra) : eraCodec.encode era = era.1.encodeTo :=
  rfl

/-- Encoder and decoder agree on every input.  A mortal era takes two bytes, of
which the first is not zero, and is read back with its period and phase; the
immortal era takes the single byte zero; and whatever is read encodes to the
bytes it was read from. -/
theorem decodeEra_agrees_with_encodeTo :
    (∀ period current rest, ∃ first second,
      (Era.mortal period current).encodeTo = [first, second] ∧ first ≠ 0 ∧
      decodeEra ((Era.mortal period current).encodeTo ++ rest) =
        some (Era.mortal period current, rest)) ∧
    Era.Immortal.encodeTo = [0] ∧
    (∀ rest, decodeEra (Era.Immortal.encodeTo ++ rest) = some (.Immortal, rest)) ∧
    (∀ input era rest, decodeEra input = some (era, rest) → era.encodeTo ++ rest = input) := by
  refine ⟨?_, rfl, fun rest => decodeEra_eq_some_iff.mpr ⟨.immortal, rfl⟩, ?_⟩
  · intro period current rest
    have bytes_eq := littleEndian_two (Window.around period.toNat current.toNat).word
    rw [← Era.encodeTo_toEra, ← Era.mortal_eq_toEra] at bytes_eq
    exact ⟨_, _, bytes_eq, ofNat_word_ne_zero _,
      decodeEra_eq_some_iff.mpr ⟨Era.mortal_wellFormed period current, rfl⟩⟩
  · intro input era rest decoded
    exact (decodeEra_eq_some_iff.mp decoded).2.symm

end QuantusWasm.Runtime
