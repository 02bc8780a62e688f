import Mathlib.Data.List.Basic
import Mathlib.Data.Vector.Defs
import Mathlib.Data.Set.Basic
import Mathlib.Logic.Equiv.Defs

/-!
# Self-delimiting byte codecs

A `Codec` pairs an encoder with a decoder that reads one value from the front
of a byte string and returns the unread rest.  Its two laws say that the
decoder undoes the encoder in front of any following bytes, and that whatever
the decoder accepts is the encoding of the value it returns.  Canonicity and
prefix-freeness are consequences, so a format assembled from codecs by the
combinators below needs no separate boundary argument.
-/

namespace Codec

universe u

/-- A set of byte strings none of which is a proper prefix of another. -/
def IsPrefixFree (words : Set (List UInt8)) : Prop :=
  ∀ ⦃left⦄, left ∈ words → ∀ ⦃right⦄, right ∈ words → left <+: right → left = right

/-- In a prefix-free set the boundary between a word and what follows it is
determined by the concatenation. -/
theorem IsPrefixFree.append_inj {words : Set (List UInt8)} (prefixFree : IsPrefixFree words)
    {left right leftRest rightRest : List UInt8}
    (leftMem : left ∈ words) (rightMem : right ∈ words)
    (equal : left ++ leftRest = right ++ rightRest) :
    left = right ∧ leftRest = rightRest := by
  have words_eq : left = right := by
    have leftPrefix : left <+: right ++ rightRest := ⟨leftRest, equal⟩
    rcases List.prefix_or_prefix_of_prefix leftPrefix (List.prefix_append right rightRest) with
      shorter | longer
    · exact prefixFree leftMem rightMem shorter
    · exact (prefixFree rightMem leftMem longer).symm
  subst words_eq
  exact ⟨rfl, List.append_cancel_left equal⟩

end Codec

open Codec in
/-- A canonical, self-delimiting binary format for the values of `α`. -/
structure Codec (α : Type u) where
  /-- The bytes of a value. -/
  encode : α → List UInt8
  /-- Read one value, returning the unread rest. -/
  decode : List UInt8 → Option (α × List UInt8)
  /-- Decoding undoes encoding, whatever bytes follow. -/
  decode_encode_append : ∀ value rest, decode (encode value ++ rest) = some (value, rest)
  /-- Only encodings are accepted. -/
  eq_encode_append : ∀ {input value rest},
    decode input = some (value, rest) → input = encode value ++ rest

namespace Codec

variable {α β ι : Type u}

/-- A decoder accepts exactly the encodings of the value it returns. -/
theorem decode_eq_some_iff (codec : Codec α) {input rest : List UInt8} {value : α} :
    codec.decode input = some (value, rest) ↔ input = codec.encode value ++ rest := by
  constructor
  · exact codec.eq_encode_append
  · rintro rfl
    exact codec.decode_encode_append value rest

@[simp]
theorem decode_encode (codec : Codec α) (value : α) :
    codec.decode (codec.encode value) = some (value, []) := by
  simpa using codec.decode_encode_append value []

/-- Encodings followed by arbitrary bytes determine both parts. -/
theorem encode_append_inj (codec : Codec α) {left right : α} {leftRest rightRest : List UInt8}
    (equal : codec.encode left ++ leftRest = codec.encode right ++ rightRest) :
    left = right ∧ leftRest = rightRest := by
  have decoded := congrArg codec.decode equal
  simpa only [codec.decode_encode_append, Option.some.injEq, Prod.mk.injEq] using decoded

theorem encode_injective (codec : Codec α) : Function.Injective codec.encode := by
  intro left right equal
  exact (codec.encode_append_inj (congrArg (· ++ []) equal)).1

/-- The encodings of a codec form a prefix-free set. -/
theorem range_encode_isPrefixFree (codec : Codec α) :
    IsPrefixFree (Set.range codec.encode) := by
  rintro _ ⟨left, rfl⟩ _ ⟨right, rfl⟩ ⟨rest, equal⟩
  have values_eq : left = right :=
    (codec.encode_append_inj (equal.trans (List.append_nil _).symm)).1
  rw [values_eq]

/-! ## Combinators -/

/-- Two values one after the other. -/
def prod (first : Codec α) (second : Codec β) : Codec (α × β) where
  encode pair := first.encode pair.1 ++ second.encode pair.2
  decode input := do
    let (left, afterLeft) ← first.decode input
    let (right, rest) ← second.decode afterLeft
    pure ((left, right), rest)
  decode_encode_append pair rest := by
    simp [List.append_assoc, first.decode_encode_append, second.decode_encode_append]
  eq_encode_append := by
    intro input pair rest decoded
    simp only [Option.bind_eq_bind, Option.bind_eq_some_iff, Option.pure_def,
      Option.some.injEq] at decoded
    rcases decoded with ⟨⟨left, afterLeft⟩, firstRead, ⟨right, unread⟩, secondRead, result⟩
    cases result
    rw [first.eq_encode_append firstRead, List.append_assoc]
    exact congrArg (first.encode left ++ ·) (second.eq_encode_append secondRead)

@[simp]
theorem prod_encode (first : Codec α) (second : Codec β) (pair : α × β) :
    (first.prod second).encode pair = first.encode pair.1 ++ second.encode pair.2 :=
  rfl

/-- Transport a codec along an equivalence of its values. -/
def congr (codec : Codec α) (equiv : α ≃ β) : Codec β where
  encode value := codec.encode (equiv.symm value)
  decode input := (codec.decode input).map fun (value, rest) => (equiv value, rest)
  decode_encode_append value rest := by
    simp [codec.decode_encode_append]
  eq_encode_append := by
    intro input value rest decoded
    rcases Option.map_eq_some_iff.mp decoded with ⟨⟨source, unread⟩, read, result⟩
    cases result
    simpa using codec.eq_encode_append read

@[simp]
theorem congr_encode (codec : Codec α) (equiv : α ≃ β) (value : β) :
    (codec.congr equiv).encode value = codec.encode (equiv.symm value) :=
  rfl

/-- One fixed byte, carrying no information. -/
def literal (byte : UInt8) : Codec Unit where
  encode _ := [byte]
  decode
    | [] => none
    | first :: rest => if first = byte then some ((), rest) else none
  decode_encode_append _ rest := by simp
  eq_encode_append := by
    intro input value rest decoded
    cases input with
    | nil => simp at decoded
    | cons first tail =>
        by_cases matches_byte : first = byte
        · simp_all
        · simp [matches_byte] at decoded

@[simp]
theorem literal_encode (byte : UInt8) (value : Unit) : (literal byte).encode value = [byte] :=
  rfl

/-- A byte string whose length is fixed by the format. -/
def bytes (length : Nat) : Codec (List.Vector UInt8 length) where
  encode block := block.toList
  decode input :=
    if fits : (input.take length).length = length then
      some (⟨input.take length, fits⟩, input.drop length)
    else none
  decode_encode_append block rest := by
    have front : (block.toList ++ rest).take length = block.toList :=
      List.take_left' block.toList_length
    have back : (block.toList ++ rest).drop length = rest :=
      List.drop_left' block.toList_length
    have fits : ((block.toList ++ rest).take length).length = length := by
      rw [front, block.toList_length]
    rw [dif_pos fits, back]
    exact congrArg (fun read => some (read, rest)) (List.Vector.eq _ block front)
  eq_encode_append := by
    intro input block rest decoded
    split at decoded
    · cases decoded
      exact (List.take_append_drop length input).symm
    · contradiction

@[simp]
theorem bytes_encode (length : Nat) (block : List.Vector UInt8 length) :
    (bytes length).encode block = block.toList :=
  rfl

/-- A tag byte selecting the format of the payload that follows it. -/
def tagged {β : ι → Type u} (tag : ι → UInt8) (untag : UInt8 → Option ι)
    (untag_eq_some_iff : ∀ byte variant, untag byte = some variant ↔ tag variant = byte)
    (payload : ∀ variant, Codec (β variant)) : Codec (Σ variant, β variant) where
  encode value := tag value.1 :: (payload value.1).encode value.2
  decode
    | [] => none
    | byte :: input => do
        let variant ← untag byte
        let (value, rest) ← (payload variant).decode input
        pure (⟨variant, value⟩, rest)
  decode_encode_append value rest := by
    have known : untag (tag value.1) = some value.1 := (untag_eq_some_iff _ _).mpr rfl
    simp [known, (payload value.1).decode_encode_append]
  eq_encode_append := by
    intro input value rest decoded
    cases input with
    | nil => simp at decoded
    | cons byte tail =>
        simp only [Option.bind_eq_bind, Option.bind_eq_some_iff, Option.pure_def,
          Option.some.injEq] at decoded
        rcases decoded with ⟨variant, known, ⟨content, unread⟩, read, result⟩
        cases result
        rw [(payload variant).eq_encode_append read, (untag_eq_some_iff _ _).mp known,
          List.cons_append]

@[simp]
theorem tagged_encode {β : ι → Type u} (tag : ι → UInt8) (untag : UInt8 → Option ι)
    (untag_eq_some_iff : ∀ byte variant, untag byte = some variant ↔ tag variant = byte)
    (payload : ∀ variant, Codec (β variant)) (value : Σ variant, β variant) :
    (tagged tag untag untag_eq_some_iff payload).encode value =
      tag value.1 :: (payload value.1).encode value.2 :=
  rfl

end Codec
