import QuantusWasm.Runtime.Grammar
import QuantusWasm.Runtime.Mortality
import QuantusWasm.Reference

/-!
# Assembled extrinsics read back

Whatever the signer assembles is the encoding of an extrinsic of the grammar,
so decoding it returns the parts that went in.  The length prefix holds the
body length modulo `2 ^ 32`; the strict decoder accepts exactly when nothing was
lost there.
-/

namespace QuantusWasm.Runtime

open Ext Codec

variable {crates : Crates}

/-- A successful assembly is the encoding of the extrinsic around the
signature that was made. -/
theorem exists_assembled_of_run {keypair : Keypair crates} {call : List UInt8}
    {ctx : SignContext} {hedge : Option Bytes32} {host after : Host} {output : List UInt8}
    (ran : (assembleExtrinsic keypair call ctx hedge).run host = (.ok output, after)) :
    ∃ (era : StorableEra) (checkpoint : Bytes32)
      (signature : List.Vector UInt8 keypair.scheme.signBytes),
      resolveEra ctx = .ok (era.1, checkpoint) ∧
      (crates.mlDsa keypair.scheme).sign keypair.key
        (signedMessage crates (signingPayload call ctx era.1 checkpoint))
        (some signingContext) hedge = some signature ∧
      output = encodeExtrinsic (assembled keypair signature era ctx call) ∧
      after = host.signed (keypair.record
        (signedMessage crates (signingPayload call ctx era.1 checkpoint)) hedge) := by
  obtain ⟨era, checkpoint, signatureBytes, resolved, signed, output_eq, after_eq⟩ :=
    run_assembleExtrinsic_eq_ok_iff.mp ran
  rcases Option.map_eq_some_iff.mp signed with ⟨signature, made, rfl⟩
  refine ⟨⟨era, wellFormed_of_resolveEra resolved⟩, checkpoint, signature, resolved, made, ?_,
    after_eq⟩
  rw [output_eq, encodeExtrinsic, body_assembled]

/-- So is what a hedged signing call returns. -/
theorem exists_assembled_of_signCall {keypair : Keypair crates} {call : List UInt8}
    {ctx : SignContext} {host after : Host} {output : List UInt8}
    (ran : (signCallWithKeypair keypair call ctx).run host = (.ok output, after)) :
    ∃ (draw : Bytes32) (era : StorableEra) (checkpoint : Bytes32)
      (signature : List.Vector UInt8 keypair.scheme.signBytes),
      crates.getrandom host.draws = some draw ∧
      resolveEra ctx = .ok (era.1, checkpoint) ∧
      (crates.mlDsa keypair.scheme).sign keypair.key
        (signedMessage crates (signingPayload call ctx era.1 checkpoint))
        (some signingContext) (some draw) = some signature ∧
      output = encodeExtrinsic (assembled keypair signature era ctx call) ∧
      after = host.drawn.signed (keypair.record
        (signedMessage crates (signingPayload call ctx era.1 checkpoint)) (some draw)) := by
  rw [run_signCallWithKeypair] at ran
  cases drawn : crates.getrandom host.draws with
  | none => simp [drawn] at ran
  | some draw =>
      rw [drawn] at ran
      obtain ⟨era, checkpoint, signature, resolved, made, output_eq, after_eq⟩ :=
        exists_assembled_of_run ran
      exact ⟨draw, era, checkpoint, signature, rfl, resolved, made, output_eq, after_eq⟩

/-- The number of bytes behind the length prefix. -/
def bodyLength (scheme : Scheme) (call : List UInt8) (ctx : SignContext) : Nat :=
  1 + 33 + (1 + scheme.signBytes + scheme.publicKeyBytes) +
    ((if ctx.period = 0 then 1 else 2) + (compactU64.encode ctx.nonce).length +
      (compactU128.encode ctx.tip).length + 1) +
    call.length

theorem length_encodeTo_of_resolveEra {ctx : SignContext} {era : Era} {checkpoint : Bytes32}
    (resolved : resolveEra ctx = .ok (era, checkpoint)) :
    era.encodeTo.length = if ctx.period = 0 then 1 else 2 := by
  split_ifs with immortal
  · rw [resolveEra_immortal immortal] at resolved
    cases resolved
    rfl
  · obtain ⟨_, rfl, _⟩ := (resolveEra_mortal_eq_ok_iff immortal).mp resolved
    rw [Era.encodeTo_toEra, length_littleEndian]

theorem length_body_assembled {keypair : Keypair crates}
    {signature : List.Vector UInt8 keypair.scheme.signBytes} {era : StorableEra}
    {ctx : SignContext} {call : List UInt8} {checkpoint : Bytes32}
    (resolved : resolveEra ctx = .ok (era.1, checkpoint)) :
    (assembled keypair signature era ctx call).body.length =
      bodyLength keypair.scheme call ctx := by
  have era_length := length_encodeTo_of_resolveEra resolved
  simp only [body_assembled, extrinsicBody, encodeAddress, encodeExtra, Keypair.publicKey,
    List.length_append, List.length_cons, List.length_nil, List.Vector.toList_length,
    era_length, bodyLength]

/-- The extrinsic a byte string holds behind its length. -/
def ReadsAs (output : List UInt8) (extrinsic : SignedExtrinsic) : Prop :=
  ∃ length body, compactU32.decode output = some (length, body) ∧
    decodeBody body = some extrinsic

theorem readsAs_encodeExtrinsic (extrinsic : SignedExtrinsic) :
    ReadsAs (encodeExtrinsic extrinsic) extrinsic :=
  ⟨_, _, decode_withLength _, decodeBody_body _⟩

theorem ReadsAs.unique {output : List UInt8} {left right : SignedExtrinsic}
    (leftReads : ReadsAs output left) (rightReads : ReadsAs output right) : left = right := by
  rcases leftReads with ⟨_, _, stripped, leftRead⟩
  rcases rightReads with ⟨_, _, otherStripped, rightRead⟩
  rw [stripped, Option.some.injEq, Prod.mk.injEq] at otherStripped
  rw [← otherStripped.2, leftRead, Option.some.injEq] at rightRead
  exact rightRead

/-- What a hedged signing call returns reads as the extrinsic around its
signature. -/
theorem exists_readsAs_of_signCall {keypair : Keypair crates} {call : List UInt8}
    {ctx : SignContext} {host after : Host} {output : List UInt8}
    (ran : (signCallWithKeypair keypair call ctx).run host = (.ok output, after)) :
    ∃ (draw : Bytes32) (era : StorableEra) (checkpoint : Bytes32)
      (signature : List.Vector UInt8 keypair.scheme.signBytes),
      resolveEra ctx = .ok (era.1, checkpoint) ∧
      (crates.mlDsa keypair.scheme).sign keypair.key
        (signedMessage crates (signingPayload call ctx era.1 checkpoint))
        (some signingContext) (some draw) = some signature ∧
      ReadsAs output (assembled keypair signature era ctx call) ∧
      after = host.drawn.signed (keypair.record
        (signedMessage crates (signingPayload call ctx era.1 checkpoint)) (some draw)) := by
  obtain ⟨draw, era, checkpoint, signature, _, resolved, made, rfl, after_eq⟩ :=
    exists_assembled_of_signCall ran
  exact ⟨draw, era, checkpoint, signature, resolved, made, readsAs_encodeExtrinsic _, after_eq⟩

/-- Decoding an assembled extrinsic returns what was put in, with no byte left
over and the length prefix equal to the number of bytes behind it, and
encoding the parts again gives the same bytes. -/
theorem decodeExtrinsic_assembleExtrinsic {keypair : Keypair crates} {call : List UInt8}
    {ctx : SignContext} {hedge : Option Bytes32} {host after : Host} {output : List UInt8}
    (ran : (assembleExtrinsic keypair call ctx hedge).run host = (.ok output, after))
    (fits : bodyLength keypair.scheme call ctx < 2 ^ 32) :
    ∃ extrinsic checkpoint, decodeExtrinsic output = some extrinsic ∧
      (∃ length body, compactU32.decode output = some (length, body) ∧
        length.toNat = body.length ∧ body = extrinsic.body) ∧
      extrinsic.signer = accountIdFromPublic crates keypair.publicKey ∧
      extrinsic.scheme = keypair.scheme ∧
      keypair.rawSign (signedMessage crates (signingPayload call ctx extrinsic.era checkpoint))
        hedge = some extrinsic.signature ∧
      extrinsic.publicKey = keypair.publicKey ∧
      resolveEra ctx = .ok (extrinsic.era, checkpoint) ∧
      extrinsic.nonce = ctx.nonce ∧
      extrinsic.tip = ctx.tip ∧
      extrinsic.call = call ∧
      encodeExtrinsic extrinsic = output := by
  obtain ⟨era, checkpoint, signature, resolved, made, rfl, _⟩ := exists_assembled_of_run ran
  have body_fits : (assembled keypair signature era ctx call).body.length < 2 ^ 32 := by
    rw [length_body_assembled resolved]
    exact fits
  refine ⟨assembled keypair signature era ctx call, checkpoint,
    decodeExtrinsic_eq_some_iff.mpr ⟨body_fits, rfl⟩,
    ⟨_, _, decode_withLength _, UInt32.toNat_ofNat_of_lt' body_fits, rfl⟩,
    rfl, rfl, ?_, rfl, resolved, rfl, rfl, rfl, rfl⟩
  exact Option.map_eq_some_iff.mpr ⟨signature, made, rfl⟩

theorem decodeExtrinsic_assembleExtrinsic_reference :
    ∃ output after extrinsic,
      (assembleExtrinsic (Reference.keypair .mlDsa65) [2, 3] Reference.context none).run
        Host.initial = (.ok output, after) ∧
      decodeExtrinsic output = some extrinsic ∧ extrinsic.call = [2, 3] ∧
      encodeExtrinsic extrinsic = output := by
  obtain ⟨output, after, ran⟩ := Reference.exists_run_assembleExtrinsic
    Reference.resolveEra_reference
    (Reference.keypair .mlDsa65) [2, 3] none Host.initial
  obtain ⟨extrinsic, _, decoded, _, _, _, _, _, _, _, _, call_eq, encoded⟩ :=
    decodeExtrinsic_assembleExtrinsic ran (by decide)
  exact ⟨output, after, extrinsic, ran, decoded, call_eq, encoded⟩

end QuantusWasm.Runtime
