import QuantusWasm.Runtime.RoundTrip

/-!
# Envelopes

Hedging changes a signature and nothing else, and the tests see that in what is
left of an extrinsic when its signature is cut out, once in Rust and once in
JavaScript.  These envelopes say everything that a signature does not.  The
JavaScript helper knows length prefixes of one and two bytes only, which is
enough for every body below 16 KiB.
-/

namespace QuantusWasm.Runtime

open Ext Codec

/-- `sig_len` of the Rust tests. -/
def sigLen (scheme : Scheme) : Nat :=
  scheme.signBytes

/-- `without_signature` of the Rust tests, which panics on anything shorter. -/
def withoutSignature (scheme : Scheme) (xt : List UInt8) : Option (List UInt8) := do
  let (_, body) ← compactU32.decode xt
  let sigStart := 1 + 33 + 1
  if sigStart + sigLen scheme ≤ body.length then
    pure (body.take sigStart ++ body.drop (sigStart + sigLen scheme))
  else
    none

/-- `SIG_LEN` of the JavaScript tests, by variant byte. -/
def sigLenOfVariant (variant : UInt8) : Option Nat :=
  if variant = 0 then some 4627 else if variant = 1 then some 3309 else none

/-- `split` of the JavaScript tests: signature and envelope. -/
def split (xt : List UInt8) : Option (List UInt8 × List UInt8) := do
  let first ← xt[0]?
  let cp := if first &&& 3 ≠ 0 then 2 else 1
  let sigStart := cp + 1 + 33 + 1
  let variant ← xt[cp + 1 + 33]?
  let sigLen ← sigLenOfVariant variant
  pure ((xt.drop sigStart).take sigLen, xt.take sigStart ++ xt.drop (sigStart + sigLen))

namespace SignedExtrinsic

/-- What stands before the signature. -/
def front (extrinsic : SignedExtrinsic) : List UInt8 :=
  0x84 :: encodeAddress extrinsic.signer ++ [extrinsic.scheme.variant]

/-- What stands behind it. -/
def back (extrinsic : SignedExtrinsic) : List UInt8 :=
  extrinsic.publicKey ++ encodeExtra extrinsic.era extrinsic.nonce extrinsic.tip ++ extrinsic.call

theorem body_eq (extrinsic : SignedExtrinsic) :
    extrinsic.body = extrinsic.front ++ (extrinsic.signature ++ extrinsic.back) := by
  simp [body, preambleCodec, Preamble.equiv, signatureFieldCodec, front, back, signer, scheme,
    publicKey, signature, era, nonce, tip]

theorem length_front (extrinsic : SignedExtrinsic) : extrinsic.front.length = 35 := by
  simp [front, encodeAddress]

theorem length_signature (extrinsic : SignedExtrinsic) :
    extrinsic.signature.length = extrinsic.scheme.signBytes :=
  List.Vector.toList_length _

end SignedExtrinsic

/-- The public key that follows a signature, for some scheme. -/
abbrev KeyField :=
  Σ scheme : Scheme, List.Vector UInt8 scheme.publicKeyBytes

/-- An extrinsic without signature and call. -/
def envelopeCodec : Codec (Unit × AccountId32 × KeyField × Extensions) :=
  (literal 0x84).prod (addressCodec.prod ((tagged Scheme.variant schemeOfVariant
    schemeOfVariant_eq_some_iff fun scheme => bytes scheme.publicKeyBytes).prod extensionsCodec))

/-- Two extrinsics are the same but for their signatures. -/
structure SameButSignature (first second : SignedExtrinsic) : Prop where
  signer : first.signer = second.signer
  scheme : first.scheme = second.scheme
  publicKey : first.publicKey = second.publicKey
  era : first.era = second.era
  nonce : first.nonce = second.nonce
  tip : first.tip = second.tip
  call : first.call = second.call

theorem envelopeCodec_encode (extrinsic : SignedExtrinsic) :
    envelopeCodec.encode ((), extrinsic.signer,
        ⟨extrinsic.scheme, extrinsic.preamble.signature.2.2⟩, extrinsic.preamble.extensions) ++
      extrinsic.call = extrinsic.front ++ extrinsic.back := by
  have key : (bytes extrinsic.scheme.publicKeyBytes).encode extrinsic.preamble.signature.2.2 =
      extrinsic.publicKey := rfl
  simp [envelopeCodec, SignedExtrinsic.front, SignedExtrinsic.back, key, SignedExtrinsic.era,
    SignedExtrinsic.nonce, SignedExtrinsic.tip]

/-- The envelope determines everything but the signature. -/
theorem front_append_back_eq_iff {first second : SignedExtrinsic} :
    first.front ++ first.back = second.front ++ second.back ↔ SameButSignature first second := by
  constructor
  · intro equal
    rw [← envelopeCodec_encode, ← envelopeCodec_encode] at equal
    obtain ⟨fields, calls⟩ := envelopeCodec.encode_append_inj equal
    simp only [Prod.mk.injEq, true_and] at fields
    rcases fields with ⟨signers, keys, extensions⟩
    constructor
    · exact signers
    · exact congrArg (fun field : KeyField => field.1) keys
    · exact congrArg (fun field : KeyField => field.2.toList) keys
    · exact congrArg (fun fields : Extensions => fields.era.1) extensions
    · exact congrArg Extensions.nonce extensions
    · exact congrArg Extensions.tip extensions
    · exact calls
  · intro same
    simp only [SignedExtrinsic.front, SignedExtrinsic.back, same.signer, same.scheme,
      same.publicKey, same.era, same.nonce, same.tip, same.call]

theorem withoutSignature_encodeExtrinsic (extrinsic : SignedExtrinsic) :
    withoutSignature extrinsic.scheme (encodeExtrinsic extrinsic) =
      some (extrinsic.front ++ extrinsic.back) := by
  have enough : 35 + sigLen extrinsic.scheme ≤ extrinsic.body.length := by
    rw [extrinsic.body_eq, List.length_append, List.length_append, extrinsic.length_front,
      extrinsic.length_signature, sigLen]
    omega
  have before : extrinsic.body.take 35 = extrinsic.front := by
    rw [extrinsic.body_eq]
    exact List.take_left' extrinsic.length_front
  have behind : extrinsic.body.drop (35 + sigLen extrinsic.scheme) = extrinsic.back := by
    rw [extrinsic.body_eq, ← List.append_assoc]
    exact List.drop_left' (by
      rw [List.length_append, extrinsic.length_front, extrinsic.length_signature, sigLen])
  simp only [withoutSignature, encodeExtrinsic, decode_withLength, Option.bind_eq_bind,
    Option.bind_some, if_pos enough, before, behind]
  rfl

/-- The two bytes that hold the length of a body. -/
def lengthBytes (extrinsic : SignedExtrinsic) : List UInt8 :=
  littleEndian 2 (4 * extrinsic.body.length + 1)

/-- The first of them tells that there are two. -/
theorem exists_lengthBytes_eq (extrinsic : SignedExtrinsic) :
    ∃ low high, low &&& 3 ≠ 0 ∧ lengthBytes extrinsic = [low, high] := by
  refine ⟨UInt8.ofNat (4 * extrinsic.body.length + 1),
    UInt8.ofNat ((4 * extrinsic.body.length + 1) / 256), ?_, rfl⟩
  intro zero
  have mode : (4 * extrinsic.body.length + 1) % 256 &&& 2 ^ 2 - 1 = 0 := by
    have toNat_eq := congrArg UInt8.toNat zero
    rwa [UInt8.toNat_and, UInt8.toNat_ofNat'] at toNat_eq
  rw [Nat.and_two_pow_sub_one_eq_mod] at mode
  omega

theorem encodeExtrinsic_of_lt {extrinsic : SignedExtrinsic}
    (small : extrinsic.body.length < 2 ^ 14) :
    encodeExtrinsic extrinsic = lengthBytes extrinsic ++ extrinsic.body := by
  have least : 2 ^ 6 ≤ extrinsic.body.length := by
    have signBytes_ge : 2 ^ 6 ≤ extrinsic.scheme.signBytes := by
      cases extrinsic.scheme <;> decide
    rw [extrinsic.body_eq, List.length_append, List.length_append, extrinsic.length_signature]
    omega
  rw [encodeExtrinsic, withLength_of_lt least small, lengthBytes]

/-- The JavaScript helper cuts out the signature. -/
theorem split_encodeExtrinsic {extrinsic : SignedExtrinsic}
    (small : extrinsic.body.length < 2 ^ 14) :
    split (encodeExtrinsic extrinsic) = some (extrinsic.signature,
      lengthBytes extrinsic ++ (extrinsic.front ++ extrinsic.back)) := by
  obtain ⟨low, high, twoBytes, bytes_eq⟩ := exists_lengthBytes_eq extrinsic
  have encoded := encodeExtrinsic_of_lt small
  rw [bytes_eq] at encoded ⊢
  have known : sigLenOfVariant extrinsic.scheme.variant = some extrinsic.scheme.signBytes := by
    cases extrinsic.scheme <;> rfl
  have before_length : (low :: high :: extrinsic.front).length = 37 := by
    simp [extrinsic.length_front]
  have cut : encodeExtrinsic extrinsic = (low :: high :: extrinsic.front) ++
      (extrinsic.signature ++ extrinsic.back) := by
    rw [encoded, extrinsic.body_eq]
    rfl
  have variant_eq : (encodeExtrinsic extrinsic)[36]? = some extrinsic.scheme.variant := by
    rw [cut, List.getElem?_append_left (by omega)]
    simp [SignedExtrinsic.front, encodeAddress]
  have before : (encodeExtrinsic extrinsic).take 37 = low :: high :: extrinsic.front := by
    rw [cut]
    exact List.take_left' before_length
  have behind : (encodeExtrinsic extrinsic).drop 37 = extrinsic.signature ++ extrinsic.back := by
    rw [cut]
    exact List.drop_left' before_length
  have signature_eq : ((encodeExtrinsic extrinsic).drop 37).take extrinsic.scheme.signBytes =
      extrinsic.signature := by
    rw [behind]
    exact List.take_left' extrinsic.length_signature
  have rest : (encodeExtrinsic extrinsic).drop (37 + extrinsic.scheme.signBytes) =
      extrinsic.back := by
    rw [← List.drop_drop, behind]
    exact List.drop_left' extrinsic.length_signature
  have head_eq : (encodeExtrinsic extrinsic)[0]? = some low := by
    rw [encoded]
    rfl
  simp only [split, head_eq, twoBytes, if_pos, Option.bind_eq_bind, Option.bind_some, ne_eq,
    not_false_eq_true, variant_eq, known, signature_eq, before, rest]
  rfl

/-- And its envelopes determine everything else as well. -/
theorem lengthBytes_append_eq_iff {first second : SignedExtrinsic} :
    lengthBytes first ++ (first.front ++ first.back) =
        lengthBytes second ++ (second.front ++ second.back) ↔ SameButSignature first second := by
  constructor
  · intro equal
    have lengths : (lengthBytes first).length = (lengthBytes second).length := by
      rw [lengthBytes, lengthBytes, length_littleEndian, length_littleEndian]
    exact front_append_back_eq_iff.mp (List.append_inj_right equal lengths)
  · intro same
    have envelopes := front_append_back_eq_iff.mpr same
    have lengths : first.body.length = second.body.length := by
      have outside := congrArg List.length envelopes
      rw [first.body_eq, second.body_eq]
      simp only [List.length_append, SignedExtrinsic.length_signature, same.scheme] at outside ⊢
      omega
    rw [lengthBytes, lengthBytes, lengths, envelopes]

/-! ## Envelopes of two signings -/

section Signings

variable {crates : Crates}

/-- Two signings ask for the same extrinsic, up to the signature. -/
structure AskSame (first second : Keypair crates) (firstCall secondCall : List UInt8)
    (firstCtx secondCtx : SignContext) : Prop where
  scheme : first.scheme = second.scheme
  publicKey : first.publicKey = second.publicKey
  era : Era.ofCounters firstCtx.period firstCtx.blockNumber =
    .ofCounters secondCtx.period secondCtx.blockNumber
  nonce : firstCtx.nonce = secondCtx.nonce
  tip : firstCtx.tip = secondCtx.tip
  call : firstCall = secondCall

/-- A signing returns an extrinsic around the signature it logs. -/
theorem exists_assembled_and_logged {keypair : Keypair crates} {call : List UInt8}
    {ctx : SignContext} {before after : Host} {output : List UInt8}
    (ran : (signCallWithKeypair keypair call ctx).run before = (.ok output, after)) :
    ∃ (era : StorableEra) (signature : List.Vector UInt8 keypair.scheme.signBytes)
      (record : SignatureRecord),
      era.1 = .ofCounters ctx.period ctx.blockNumber ∧
      output = encodeExtrinsic (assembled keypair signature era ctx call) ∧
      after.signatures = before.signatures ++ [record] ∧
      record.signature = some signature.toList := by
  obtain ⟨draw, era, checkpoint, signature, _, resolved, made, output_eq, rfl⟩ :=
    exists_assembled_of_signCall ran
  exact ⟨era, signature, _, era_eq_ofCounters resolved, output_eq, rfl,
    congrArg (Option.map List.Vector.toList) made⟩

theorem sameButSignature_assembled_iff {first second : Keypair crates}
    {firstSignature : List.Vector UInt8 first.scheme.signBytes}
    {secondSignature : List.Vector UInt8 second.scheme.signBytes} {firstEra secondEra : StorableEra}
    {firstCtx secondCtx : SignContext} {firstCall secondCall : List UInt8}
    (firstEra_eq : firstEra.1 = .ofCounters firstCtx.period firstCtx.blockNumber)
    (secondEra_eq : secondEra.1 = .ofCounters secondCtx.period secondCtx.blockNumber) :
    SameButSignature (assembled first firstSignature firstEra firstCtx firstCall)
        (assembled second secondSignature secondEra secondCtx secondCall) ↔
      AskSame first second firstCall secondCall firstCtx secondCtx := by
  constructor
  · intro same
    exact ⟨same.scheme, same.publicKey, firstEra_eq.symm.trans (same.era.trans secondEra_eq),
      same.nonce, same.tip, same.call⟩
  · intro same
    exact ⟨congrArg (accountIdFromPublic crates) same.publicKey, same.scheme, same.publicKey,
      firstEra_eq.trans (same.era.trans secondEra_eq.symm), same.nonce, same.tip, same.call⟩

theorem length_body_lt {extrinsic : SignedExtrinsic}
    (small : (encodeExtrinsic extrinsic).length < 2 ^ 14) : extrinsic.body.length < 2 ^ 14 := by
  rw [encodeExtrinsic, withLength, List.length_append] at small
  omega

/-- The envelopes that the helpers cut out of two signings are equal exactly if
these were asked for the same extrinsic, by keys with one public key.  The Rust
helper serves for all extrinsics, the JavaScript helper for those below 16 KiB,
out of which it cuts the very signature that was made. -/
theorem envelope_eq_iff {first second : Keypair crates} {firstCall secondCall : List UInt8}
    {firstCtx secondCtx : SignContext} {before after otherBefore otherAfter : Host}
    {firstOutput secondOutput : List UInt8}
    (firstRan : (signCallWithKeypair first firstCall firstCtx).run before =
      (.ok firstOutput, after))
    (secondRan : (signCallWithKeypair second secondCall secondCtx).run otherBefore =
      (.ok secondOutput, otherAfter)) :
    (withoutSignature first.scheme firstOutput = withoutSignature second.scheme secondOutput ↔
      AskSame first second firstCall secondCall firstCtx secondCtx) ∧
    (firstOutput.length < 2 ^ 14 → secondOutput.length < 2 ^ 14 →
      ∃ firstRecord secondRecord firstSignature secondSignature firstEnvelope secondEnvelope,
        after.signatures = before.signatures ++ [firstRecord] ∧
        firstRecord.signature = some firstSignature ∧
        otherAfter.signatures = otherBefore.signatures ++ [secondRecord] ∧
        secondRecord.signature = some secondSignature ∧
        split firstOutput = some (firstSignature, firstEnvelope) ∧
        split secondOutput = some (secondSignature, secondEnvelope) ∧
        (firstEnvelope = secondEnvelope ↔
          AskSame first second firstCall secondCall firstCtx secondCtx)) := by
  obtain ⟨firstEra, firstSignature, firstRecord, firstEra_eq, rfl, firstLogged, firstMade⟩ :=
    exists_assembled_and_logged firstRan
  obtain ⟨secondEra, secondSignature, secondRecord, secondEra_eq, rfl, secondLogged,
    secondMade⟩ := exists_assembled_and_logged secondRan
  have same_iff := @sameButSignature_assembled_iff crates first second firstSignature
    secondSignature _ _ _ _ firstCall secondCall firstEra_eq secondEra_eq
  constructor
  · have firstCut : withoutSignature first.scheme (encodeExtrinsic
        (assembled first firstSignature firstEra firstCtx firstCall)) = some _ :=
      withoutSignature_encodeExtrinsic _
    have secondCut : withoutSignature second.scheme (encodeExtrinsic
        (assembled second secondSignature secondEra secondCtx secondCall)) = some _ :=
      withoutSignature_encodeExtrinsic _
    rw [← same_iff, firstCut, secondCut, Option.some.injEq]
    exact front_append_back_eq_iff
  · intro firstSmall secondSmall
    refine ⟨firstRecord, secondRecord, _, _, _, _, firstLogged, firstMade, secondLogged,
      secondMade, split_encodeExtrinsic (length_body_lt firstSmall),
      split_encodeExtrinsic (length_body_lt secondSmall), ?_⟩
    rw [← same_iff]
    exact lengthBytes_append_eq_iff

end Signings

end QuantusWasm.Runtime

namespace QuantusWasm.Reference

open Ext QuantusWasm.Runtime

/-- Two signings with different draws have one envelope. -/
theorem envelope_eq_iff_reference :
    ∃ firstOutput secondOutput firstAfter secondAfter,
      (signCallWithKeypair (keypair .mlDsa65) [2, 3] context).run Host.initial =
        (.ok firstOutput, firstAfter) ∧
      (signCallWithKeypair (keypair .mlDsa65) [2, 3] context).run Host.initial.drawn =
        (.ok secondOutput, secondAfter) ∧
      withoutSignature .mlDsa65 firstOutput = withoutSignature .mlDsa65 secondOutput := by
  obtain ⟨firstOutput, firstAfter, firstRan⟩ := @exists_run_signCallWithKeypair _ _ _
    resolveEra_reference (keypair .mlDsa65) [2, 3] Host.initial (by decide)
  obtain ⟨secondOutput, secondAfter, secondRan⟩ := @exists_run_signCallWithKeypair _ _ _
    resolveEra_reference (keypair .mlDsa65) [2, 3] Host.initial.drawn (by decide)
  exact ⟨firstOutput, secondOutput, firstAfter, secondAfter, firstRan, secondRan,
    (envelope_eq_iff firstRan secondRan).1.mpr ⟨rfl, rfl, rfl, rfl, rfl, rfl⟩⟩

end QuantusWasm.Reference
