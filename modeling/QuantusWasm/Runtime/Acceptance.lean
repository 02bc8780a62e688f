import QuantusWasm.Runtime.RoundTrip

/-!
# Acceptance by the runtime

The runtime rebuilds the signed payload from the decoded extrinsic and from the
chain at the height where it checks it.  At every height of the mortality window
it rebuilds the very message the signer signed, so the signature verifies.
-/

namespace QuantusWasm

namespace Runtime

open Ext Codec

/-- What the runtime knows of its chain. -/
structure Chain where
  blockHash : Nat → Bytes32
  specVersion : UInt32
  transactionVersion : UInt32

/-- A signing context that describes the chain.  The anchor block matters only
to a mortal era. -/
structure Chain.Matches (chain : Chain) (ctx : SignContext) : Prop where
  genesis : chain.blockHash 0 = ctx.genesisHash
  specVersion : chain.specVersion = ctx.specVersion
  transactionVersion : chain.transactionVersion = ctx.transactionVersion
  anchor : 0 < ctx.period → chain.blockHash ctx.blockNumber.toNat = ctx.blockHash

/-- Verification of a signature over a message under a context string. -/
abbrev Verifier :=
  (scheme : Scheme) → List.Vector UInt8 scheme.publicKeyBytes → List UInt8 →
    List.Vector UInt8 scheme.signBytes → List UInt8 → Bool

/-- The context string under which the runtime verifies the signature of an
extrinsic: `QUANTUS_EXTRINSIC`. -/
def extrinsicContext : List UInt8 :=
  [0x51, 0x55, 0x41, 0x4E, 0x54, 0x55, 0x53, 0x5F, 0x45, 0x58, 0x54, 0x52, 0x49, 0x4E, 0x53, 0x49,
    0x43]

/-- The signer signs under the context of the runtime. -/
theorem signingContext_eq_extrinsicContext : signingContext = extrinsicContext := by
  decide

/-- Signatures made with a key verify under its public key. -/
def Verifier.Correct (verifier : Verifier) (crates : Crates) : Prop :=
  ∀ scheme key message context hedge signature,
    (crates.mlDsa scheme).sign key message (some context) hedge = some signature →
      verifier scheme ((crates.mlDsa scheme).publicKey key) message signature context = true

/-- What the runtime adds to the payload at a height: versions, genesis, the
hash of the block where the era was born, and no metadata hash. -/
def additionalSigned (chain : Chain) (height : Nat) (era : Era) : List UInt8 :=
  littleEndian 4 chain.specVersion.toNat ++ littleEndian 4 chain.transactionVersion.toNat ++
    (chain.blockHash 0).toList ++ (chain.blockHash (era.birthAt height)).toList ++ [0]

/-- The message a decoded extrinsic must be signed with at a height. -/
def signable (crates : Crates) (chain : Chain) (height : Nat) (extrinsic : SignedExtrinsic) :
    List UInt8 :=
  let payload := extrinsic.call ++ extensionsCodec.encode extrinsic.preamble.extensions ++
    additionalSigned chain height extrinsic.era
  if payload.length > 256 then (crates.blake2_256 payload).toList else payload

/-- The embedded public key is the signer's and its signature verifies under the
context of the runtime. -/
def verify (crates : Crates) (verifier : Verifier) (message : List UInt8)
    (extrinsic : SignedExtrinsic) : Bool :=
  decide (crates.hashBytes extrinsic.publicKey = extrinsic.signer) &&
    verifier extrinsic.scheme extrinsic.preamble.signature.2.2 message
      extrinsic.preamble.signature.2.1 extrinsicContext

/-- The heights at which an era anchored to a block is valid. -/
def Covers (block height : Nat) : Era → Prop
  | .Immortal => True
  | .Mortal period _ => block ≤ height ∧ height < block + period.toNat

section Acceptance

variable {crates : Crates}

/-- Throughout its window, a resolved era is born at the block whose hash was
signed. -/
theorem blockHash_birthAt {chain : Chain} {ctx : SignContext} (known : chain.Matches ctx)
    {era : Era} {checkpoint : Bytes32} (resolved : resolveEra ctx = .ok (era, checkpoint))
    {height : Nat} (covered : Covers ctx.blockNumber.toNat height era) :
    chain.blockHash (era.birthAt height) = checkpoint := by
  by_cases immortal : ctx.period = 0
  · rw [resolveEra_immortal immortal] at resolved
    cases resolved
    exact known.genesis
  · obtain ⟨divides, rfl, rfl⟩ := (resolveEra_mortal_eq_ok_iff immortal).mp resolved
    rcases covered with ⟨reached, within⟩
    rw [Window.toNat_period] at within
    rw [Era.birthAt_toEra, (Window.anchor_around_eq_iff divides reached).mpr within]
    exact known.anchor (UInt64.pos_iff_ne_zero.mpr immortal)

/-- The runtime rebuilds the message the signer signed. -/
theorem signable_assembled {chain : Chain} {ctx : SignContext} (known : chain.Matches ctx)
    {era : StorableEra} {checkpoint : Bytes32}
    (resolved : resolveEra ctx = .ok (era.1, checkpoint)) {height : Nat}
    (covered : Covers ctx.blockNumber.toNat height era.1) (keypair : Keypair crates)
    (signature : List.Vector UInt8 keypair.scheme.signBytes) (call : List UInt8) :
    signable crates chain height (assembled keypair signature era ctx call) =
      signedMessage crates (signingPayload call ctx era.1 checkpoint) := by
  have additional : additionalSigned chain height era.1 = encodeImplicit ctx checkpoint := by
    rw [additionalSigned, encodeImplicit, known.specVersion, known.transactionVersion,
      known.genesis, blockHash_birthAt known resolved covered]
  simp only [signable, assembled, SignedExtrinsic.era, extensionsCodec_encode, additional]
  rfl

/-- Every extrinsic the signer assembles is accepted at every height of its
window: the body decodes, the runtime's message is the one ML-DSA was given,
and the embedded key and signature verify. -/
theorem verify_assembleExtrinsic {verifier : Verifier} (correct : verifier.Correct crates)
    {keypair : Keypair crates} {call : List UInt8} {ctx : SignContext} {hedge : Option Bytes32}
    {host after : Host} {output : List UInt8}
    (ran : (assembleExtrinsic keypair call ctx hedge).run host = (.ok output, after)) :
    ∃ length body extrinsic checkpoint record,
      compactU32.decode output = some (length, body) ∧
      decodeBody body = some extrinsic ∧
      resolveEra ctx = .ok (extrinsic.era, checkpoint) ∧
      after.signatures = host.signatures ++ [record] ∧
      record.signature = some extrinsic.signature ∧
      ∀ chain : Chain, chain.Matches ctx →
        ∀ height, Covers ctx.blockNumber.toNat height extrinsic.era →
          signable crates chain height extrinsic = record.message ∧
          crates.hashBytes extrinsic.publicKey = extrinsic.signer ∧
          verify crates verifier (signable crates chain height extrinsic) extrinsic = true := by
  obtain ⟨era, checkpoint, signature, resolved, made, rfl, rfl⟩ := exists_assembled_of_run ran
  refine ⟨_, _, assembled keypair signature era ctx call, checkpoint, _, decode_withLength _,
    decodeBody_body _, resolved, rfl, Option.map_eq_some_iff.mpr ⟨signature, made, rfl⟩, ?_⟩
  intro chain known height covered
  have rebuilt := signable_assembled known resolved covered keypair signature call
  refine ⟨rebuilt, rfl, ?_⟩
  rw [signingContext_eq_extrinsicContext] at made
  rw [rebuilt, verify, Bool.and_eq_true, decide_eq_true_iff]
  exact ⟨rfl, correct _ _ _ _ _ _ made⟩

end Acceptance

end Runtime

namespace Reference

open Ext QuantusWasm.Runtime

/-- A signature must show the key, the context and the message behind its
hedge. -/
def verifier : Verifier := fun scheme publicKey message signature context =>
  signature.toList.drop 32 ==
    (fit scheme.signBytes ((fit 32 []).toList ++
      transcript publicKey.toList message context)).toList.drop 32

theorem verifier_correct : verifier.Correct crates := by
  intro scheme key message context hedge signature signed
  cases signed
  rw [verifier, beq_iff_eq, drop_fit_append _ (List.Vector.toList_length _),
    drop_fit_append _ (List.Vector.toList_length _)]
  rfl

/-- A chain the reference context describes. -/
def chain : Chain where
  blockHash height := if height = 100 then context.blockHash else context.genesisHash
  specVersion := context.specVersion
  transactionVersion := context.transactionVersion

theorem chain_matches : chain.Matches context where
  genesis := rfl
  specVersion := rfl
  transactionVersion := rfl
  anchor _ := rfl

/-- The last height of the window. -/
theorem verify_assembleExtrinsic_last :
    ∃ output after extrinsic,
      (assembleExtrinsic (keypair .mlDsa65) [2, 3] context none).run Host.initial =
        (.ok output, after) ∧
      verify crates verifier (signable crates chain 163 extrinsic) extrinsic = true := by
  obtain ⟨output, after, ran⟩ := exists_run_assembleExtrinsic resolveEra_reference
    (keypair .mlDsa65) [2, 3] none Host.initial
  obtain ⟨_, _, extrinsic, _, _, _, _, resolved, _, _, accepted⟩ :=
    verify_assembleExtrinsic verifier_correct ran
  rw [resolveEra_reference] at resolved
  have era_eq : (Window.around 64 100).toEra = extrinsic.era :=
    congrArg Prod.fst (Except.ok.inj resolved)
  have covered : Covers context.blockNumber.toNat 163 extrinsic.era := by
    rw [← era_eq]
    exact ⟨by decide, by decide⟩
  exact ⟨output, after, extrinsic, ran, (accepted chain chain_matches 163 covered).2.2⟩

end Reference

end QuantusWasm
