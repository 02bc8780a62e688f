import QuantusWasm.Runtime.Call
import QuantusWasm.Runtime.Era

/-!
# The signed extrinsic format

The version 4 grammar of a signed extrinsic as the runtime reads it: a length,
then version, signer, signature field, era, nonce, tip and metadata mode, then
the call, which has no length of its own.  Everything before the call is a
codec assembled from the codecs of its pieces.
-/

namespace QuantusWasm.Runtime

open Ext Codec

/-- The scheme of a signature variant. -/
def schemeOfVariant (variant : UInt8) : Option Scheme :=
  if variant = 0 then some .mlDsa87 else if variant = 1 then some .mlDsa65 else none

theorem schemeOfVariant_eq_some_iff (variant : UInt8) (scheme : Scheme) :
    schemeOfVariant variant = some scheme ↔ scheme.variant = variant := by
  unfold schemeOfVariant
  split_ifs with zero one
  · cases scheme <;> simp [zero, Scheme.variant]
  · cases scheme <;> simp [one, Scheme.variant]
  · cases scheme <;> simp [Scheme.variant, eq_comm, zero, one]

/-- A signature and the public key that follows it, for some scheme. -/
abbrev SignatureField :=
  Σ scheme : Scheme, List.Vector UInt8 scheme.signBytes × List.Vector UInt8 scheme.publicKeyBytes

/-- `DilithiumSignatureScheme`. -/
def signatureFieldCodec : Codec SignatureField :=
  tagged Scheme.variant schemeOfVariant schemeOfVariant_eq_some_iff fun scheme =>
    (bytes scheme.signBytes).prod (bytes scheme.publicKeyBytes)

/-- The transmitted transaction extensions. -/
structure Extensions where
  era : StorableEra
  nonce : UInt64
  tip : BitVec 128

namespace Extensions

/-- The extensions as the tuple of their fields. -/
def equiv : StorableEra × UInt64 × BitVec 128 × Unit ≃ Extensions where
  toFun fields := ⟨fields.1, fields.2.1, fields.2.2.1⟩
  invFun extensions := (extensions.era, extensions.nonce, extensions.tip, ())
  left_inv _ := rfl
  right_inv _ := rfl

end Extensions

/-- Mortality, nonce, tip, and the disabled metadata mode. -/
def extensionsCodec : Codec Extensions :=
  (eraCodec.prod (compactU64.prod (compactU128.prod (literal 0)))).congr Extensions.equiv

/-- Everything of a signed extrinsic but its call. -/
structure Preamble where
  signer : AccountId32
  signature : SignatureField
  extensions : Extensions

namespace Preamble

/-- The preamble as the tuple of its fields, behind the version byte. -/
def equiv : Unit × AccountId32 × SignatureField × Extensions ≃ Preamble where
  toFun fields := ⟨fields.2.1, fields.2.2.1, fields.2.2.2⟩
  invFun preamble := ((), preamble.signer, preamble.signature, preamble.extensions)
  left_inv _ := rfl
  right_inv _ := rfl

end Preamble

/-- Version byte, signer, signature field and extensions. -/
def preambleCodec : Codec Preamble :=
  ((literal 0x84).prod (addressCodec.prod (signatureFieldCodec.prod extensionsCodec))).congr
    Preamble.equiv

@[simp]
theorem extensionsCodec_encode (fields : Extensions) :
    extensionsCodec.encode fields = encodeExtra fields.era.1 fields.nonce fields.tip := by
  simp [extensionsCodec, Extensions.equiv, encodeExtra]

/-- A decoded signed extrinsic. -/
structure SignedExtrinsic where
  preamble : Preamble
  call : List UInt8

namespace SignedExtrinsic

/-- Scheme of the signature. -/
def scheme (extrinsic : SignedExtrinsic) : Scheme :=
  extrinsic.preamble.signature.1

/-- Bytes of the signature. -/
def signature (extrinsic : SignedExtrinsic) : List UInt8 :=
  extrinsic.preamble.signature.2.1.toList

/-- Bytes of the embedded public key. -/
def publicKey (extrinsic : SignedExtrinsic) : List UInt8 :=
  extrinsic.preamble.signature.2.2.toList

/-- Account that pays. -/
def signer (extrinsic : SignedExtrinsic) : AccountId32 :=
  extrinsic.preamble.signer

/-- Mortality. -/
def era (extrinsic : SignedExtrinsic) : Era :=
  extrinsic.preamble.extensions.era.1

/-- Transaction count of the signer. -/
def nonce (extrinsic : SignedExtrinsic) : UInt64 :=
  extrinsic.preamble.extensions.nonce

/-- Tip in plancks. -/
def tip (extrinsic : SignedExtrinsic) : BitVec 128 :=
  extrinsic.preamble.extensions.tip

/-- The bytes behind the length. -/
def body (extrinsic : SignedExtrinsic) : List UInt8 :=
  preambleCodec.encode extrinsic.preamble ++ extrinsic.call

end SignedExtrinsic

/-- The bytes of an extrinsic, behind their length. -/
def encodeExtrinsic (extrinsic : SignedExtrinsic) : List UInt8 :=
  withLength extrinsic.body

/-- Read a body: the call is all that follows the preamble. -/
def decodeBody (body : List UInt8) : Option SignedExtrinsic :=
  (preambleCodec.decode body).map fun (preamble, call) => ⟨preamble, call⟩

/-- Strip the length and read the body; the length must be that of the body. -/
def decodeExtrinsic (input : List UInt8) : Option SignedExtrinsic := do
  let (length, body) ← compactU32.decode input
  if length.toNat = body.length then decodeBody body else none

@[simp]
theorem decodeBody_body (extrinsic : SignedExtrinsic) :
    decodeBody extrinsic.body = some extrinsic := by
  rw [decodeBody, SignedExtrinsic.body, preambleCodec.decode_encode_append]
  rfl

theorem decodeBody_eq_some_iff {body : List UInt8} {extrinsic : SignedExtrinsic} :
    decodeBody body = some extrinsic ↔ body = extrinsic.body := by
  constructor
  · intro decoded
    rcases Option.map_eq_some_iff.mp decoded with ⟨⟨fields, call⟩, read, rfl⟩
    exact preambleCodec.eq_encode_append read
  · rintro rfl
    exact decodeBody_body extrinsic

/-- The length of any body can be stripped. -/
theorem decode_withLength (body : List UInt8) :
    compactU32.decode (withLength body) = some (UInt32.ofNat body.length, body) :=
  compactU32.decode_encode_append _ _

/-- Two bytes hold the length of a body of this size. -/
theorem withLength_of_lt {body : List UInt8} (least : 2 ^ 6 ≤ body.length)
    (small : body.length < 2 ^ 14) :
    withLength body = littleEndian 2 (4 * body.length + 1) ++ body := by
  have toNat_eq : (UInt32.ofNat body.length).toNat = body.length :=
    UInt32.toNat_ofNat_of_lt' (by simp only [UInt32.size]; omega)
  rw [withLength, compactU32_encode, toNat_eq, Compact.encode_of_lt_two_pow_fourteen least small]

/-- The strict decoder accepts exactly the encodings of bodies whose length
fits the prefix. -/
theorem decodeExtrinsic_eq_some_iff {input : List UInt8} {extrinsic : SignedExtrinsic} :
    decodeExtrinsic input = some extrinsic ↔
      extrinsic.body.length < 2 ^ 32 ∧ input = encodeExtrinsic extrinsic := by
  constructor
  · intro decoded
    simp only [decodeExtrinsic, Option.bind_eq_bind, Option.bind_eq_some_iff] at decoded
    rcases decoded with ⟨⟨length, body⟩, read, rest⟩
    split_ifs at rest with length_eq
    rw [decodeBody_eq_some_iff] at rest
    subst rest
    have word_eq : UInt32.ofNat extrinsic.body.length = length := by
      rw [← length_eq, UInt32.ofNat_toNat]
    refine ⟨length_eq ▸ length.toNat_lt, ?_⟩
    rw [encodeExtrinsic, withLength, word_eq]
    exact compactU32.eq_encode_append read
  · rintro ⟨fits, rfl⟩
    simp only [decodeExtrinsic, encodeExtrinsic, decode_withLength, Option.bind_eq_bind,
      Option.bind_some, UInt32.toNat_ofNat_of_lt' fits, if_true, decodeBody_body]

/-! ## What the signer assembles -/

section Assembled

variable {crates : Crates}

/-- The extrinsic the signer assembles around a signature. -/
def assembled (keypair : Keypair crates)
    (signature : List.Vector UInt8 keypair.scheme.signBytes) (era : StorableEra)
    (ctx : SignContext) (call : List UInt8) : SignedExtrinsic where
  preamble :=
    { signer := accountIdFromPublic crates keypair.publicKey
      signature := ⟨keypair.scheme, signature, (crates.mlDsa keypair.scheme).publicKey keypair.key⟩
      extensions := ⟨era, ctx.nonce, ctx.tip⟩ }
  call := call

/-- The signer writes the grammar. -/
theorem body_assembled (keypair : Keypair crates)
    (signature : List.Vector UInt8 keypair.scheme.signBytes) (era : StorableEra)
    (ctx : SignContext) (call : List UInt8) :
    (assembled keypair signature era ctx call).body =
      extrinsicBody keypair signature.toList era.1 ctx call := by
  have version_eq : (0b10000000 ||| extrinsicVersion : UInt8) = 0x84 := by decide
  simp [SignedExtrinsic.body, assembled, preambleCodec, Preamble.equiv, signatureFieldCodec,
    extrinsicBody, Keypair.publicKey, version_eq]

end Assembled

end QuantusWasm.Runtime
