import QuantusWasm.Runtime.Acceptance
import QuantusWasm.Runtime.Payload
import QuantusWasm.Runtime.Uniqueness

/-!
# What the runtime admits

Versions, genesis and checkpoint are signed, so the check of era and signature
passes exactly where the runtime has the ones that were signed: not on a chain
with another genesis, not after an upgrade, and not with a checkpoint that is no
hash of the block the era is born at.
-/

namespace QuantusWasm

namespace Runtime

open Ext Codec

/-- What the runtime has at hand where it checks an extrinsic: its chain, the
height of the block it builds, and the blocks before whose hashes it still
keeps. -/
structure View where
  chain : Chain
  height : Nat
  keeps : Nat → Bool
  lt_of_keeps : ∀ number, keeps number = true → number < height

/-- The hash of the birth block is kept, and the signature verifies over what
the runtime rebuilds. -/
def View.accepts (view : View) (crates : Crates) (verifier : Verifier)
    (extrinsic : SignedExtrinsic) : Bool :=
  view.keeps (extrinsic.era.birthAt view.height) &&
    verify crates verifier (signable crates view.chain view.height extrinsic) extrinsic

/-- The one height of the rounded period before this height that is a whole
number of such periods from the block. -/
def IsBirth (period block height birth : Nat) : Prop :=
  birth % roundedPeriod period = block % roundedPeriod period ∧
    birth < height ∧ height < birth + roundedPeriod period

/-- What the context was signed for is what the runtime has. -/
structure View.Admits (view : View) (ctx : SignContext) : Prop where
  genesis : view.chain.blockHash 0 = ctx.genesisHash
  specVersion : view.chain.specVersion = ctx.specVersion
  transactionVersion : view.chain.transactionVersion = ctx.transactionVersion
  started : ctx.period = 0 → view.keeps 0 = true
  anchored : ctx.period ≠ 0 →
    ∃ birth, IsBirth ctx.period.toNat ctx.blockNumber.toNat view.height birth ∧
      view.keeps birth = true ∧ view.chain.blockHash birth = ctx.blockHash

/-- What a signature must be over at a height, before it is hashed. -/
def rebuiltPayload (chain : Chain) (height : Nat) (extrinsic : SignedExtrinsic) : List UInt8 :=
  extrinsic.call ++ extensionsCodec.encode extrinsic.preamble.extensions ++
    additionalSigned chain height extrinsic.era

/-- The hash function does not confuse what a call and a context are signed as
with what the runtime rebuilds. -/
def NoRebuiltCollision (crates : Crates) (call : List UInt8) (ctx : SignContext) (view : View)
    (extrinsic : SignedExtrinsic) : Prop :=
  ∀ era checkpoint, resolveEra ctx = .ok (era, checkpoint) →
    payloadHashThreshold < (signingPayload call ctx era checkpoint).length →
    crates.blake2_256 (signingPayload call ctx era checkpoint) =
      crates.blake2_256 (rebuiltPayload view.chain view.height extrinsic) →
    signingPayload call ctx era checkpoint = rebuiltPayload view.chain view.height extrinsic

/-- The signature of an extrinsic, made over what a call and a context are
signed as, verifies over what the runtime rebuilds only if that is the same
message. -/
def Verifier.Binds (verifier : Verifier) (crates : Crates) (call : List UInt8) (ctx : SignContext)
    (view : View) (extrinsic : SignedExtrinsic) : Prop :=
  ∀ era checkpoint, resolveEra ctx = .ok (era, checkpoint) →
    verifier extrinsic.scheme extrinsic.preamble.signature.2.2
        (signable crates view.chain view.height extrinsic) extrinsic.preamble.signature.2.1
        extrinsicContext = true →
    signable crates view.chain view.height extrinsic =
      signedMessage crates (signingPayload call ctx era checkpoint)

section Admission

variable {crates : Crates} {chain : Chain} {height : Nat} {view : View} {ctx : SignContext}

theorem signable_eq (extrinsic : SignedExtrinsic) :
    signable crates chain height extrinsic =
      signedMessage crates (rebuiltPayload chain height extrinsic) :=
  rfl

/-- The context that names the versions and the genesis of the chain. -/
def Chain.context (chain : Chain) : SignContext where
  nonce := 0
  tip := 0
  period := 0
  blockNumber := 0
  genesisHash := chain.blockHash 0
  blockHash := chain.blockHash 0
  specVersion := chain.specVersion
  transactionVersion := chain.transactionVersion

/-- The runtime adds what a signer on its chain would. -/
theorem additionalSigned_eq (chain : Chain) (height : Nat) (era : Era) :
    additionalSigned chain height era =
      encodeImplicit chain.context (chain.blockHash (era.birthAt height)) :=
  rfl

theorem rebuiltPayload_assembled (keypair : Keypair crates)
    (signature : List.Vector UInt8 keypair.scheme.signBytes) (era : StorableEra)
    (ctx : SignContext) (call : List UInt8) :
    rebuiltPayload chain height (assembled keypair signature era ctx call) =
      call ++ encodeExtra era.1 ctx.nonce ctx.tip ++
        encodeImplicit chain.context (chain.blockHash (era.1.birthAt height)) := by
  simp only [rebuiltPayload, assembled, SignedExtrinsic.era, extensionsCodec_encode,
    additionalSigned_eq]

/-- The runtime keeps the birth block of a resolved era with the checkpoint as
its hash exactly if it is anchored as the context is. -/
theorem birthAt_anchored_iff {era : Era} {checkpoint : Bytes32}
    (resolved : resolveEra ctx = .ok (era, checkpoint)) :
    view.keeps (era.birthAt view.height) = true ∧
        view.chain.blockHash (era.birthAt view.height) = checkpoint ∧
        view.chain.blockHash 0 = ctx.genesisHash ↔
      view.chain.blockHash 0 = ctx.genesisHash ∧ (ctx.period = 0 → view.keeps 0 = true) ∧
        (ctx.period ≠ 0 →
          ∃ birth, IsBirth ctx.period.toNat ctx.blockNumber.toNat view.height birth ∧
            view.keeps birth = true ∧ view.chain.blockHash birth = ctx.blockHash) := by
  by_cases immortal : ctx.period = 0
  · rw [resolveEra_immortal immortal] at resolved
    cases resolved
    simp only [Era.birthAt, immortal, ne_eq, not_true_eq_false, false_implies, and_true,
      true_implies]
    constructor
    · rintro ⟨kept, genesis_eq, _⟩
      exact ⟨genesis_eq, kept⟩
    · rintro ⟨genesis_eq, kept⟩
      exact ⟨kept, genesis_eq, genesis_eq⟩
  · obtain ⟨divides, rfl, rfl⟩ := (resolveEra_mortal_eq_ok_iff immortal).mp resolved
    have phase_eq : (Window.around ctx.period.toNat ctx.blockNumber.toNat).phase =
        ctx.blockNumber.toNat % roundedPeriod ctx.period.toNat := by
      rw [← Window.period_around ctx.period.toNat ctx.blockNumber.toNat]
      apply Periodic.quantize_eq_self_iff.mpr
      exact (Nat.dvd_mod_iff (Window.step_dvd_two_pow _)).mpr divides
    have birth_iff : ∀ birth, IsBirth ctx.period.toNat ctx.blockNumber.toNat view.height birth ↔
        (Window.around ctx.period.toNat ctx.blockNumber.toNat).toEra.birthAt view.height = birth ∧
          birth < view.height := by
      intro birth
      rw [Era.birthAt_toEra, Periodic.anchor_eq_and_lt_iff (Window.phase_lt_period _), phase_eq,
        Window.period_around]
      rfl
    constructor
    · rintro ⟨kept, hash_eq, genesis_eq⟩
      refine ⟨genesis_eq, fun zero => absurd zero immortal, fun _ => ⟨_, ?_, kept, hash_eq⟩⟩
      exact (birth_iff _).mpr ⟨rfl, view.lt_of_keeps _ kept⟩
    · rintro ⟨genesis_eq, _, anchored⟩
      rcases anchored immortal with ⟨birth, isBirth, kept, hash_eq⟩
      obtain ⟨rfl, _⟩ := (birth_iff birth).mp isBirth
      exact ⟨kept, hash_eq, genesis_eq⟩

/-- What a request returned is accepted in a view exactly if the view admits the
context of the request. -/
theorem accepts_iff_admits {verifier : Verifier} (correct : verifier.Correct crates)
    {request : Request crates} {before after : Host} {output : List UInt8}
    {extrinsic : SignedExtrinsic} (ran : request.serve.run before = (.ok output, after))
    (decoded : decodeExtrinsic output = some extrinsic)
    (binds : verifier.Binds crates request.call request.ctx view extrinsic)
    (noCollision : NoRebuiltCollision crates request.call request.ctx view extrinsic) :
    view.accepts crates verifier extrinsic = true ↔ view.Admits request.ctx := by
  obtain ⟨keypair, draw, era, checkpoint, signature, _, _, resolved, made, output_eq, _⟩ :=
    exists_signature_of_ok ran
  obtain ⟨_, encoded⟩ := decodeExtrinsic_eq_some_iff.mp decoded
  obtain rfl := encodeExtrinsic_injective (encoded.symm.trans output_eq)
  have rebuilt := @rebuiltPayload_assembled crates view.chain view.height keypair signature era
    request.ctx request.call
  have anchored := @birthAt_anchored_iff view _ _ _ resolved
  rw [View.accepts, verify, Bool.and_eq_true, Bool.and_eq_true, decide_eq_true_iff]
  constructor
  · rintro ⟨kept, _, verified⟩
    have messages := binds _ _ resolved verified
    have lengths : (signingPayload request.call request.ctx era.1 checkpoint).length =
        (rebuiltPayload view.chain view.height
          (assembled keypair signature era request.ctx request.call)).length := by
      rw [rebuilt, signingPayload]
      simp only [List.length_append, length_encodeImplicit]
    have payloads := signedMessage_inj_of_length_eq lengths (noCollision _ _ resolved)
      messages.symm
    rw [rebuilt, signingPayload, List.append_cancel_left_eq] at payloads
    obtain ⟨specs, transactions, geneses, checkpoints⟩ := encodeImplicit_inj payloads
    obtain ⟨genesis_eq, started, births⟩ := anchored.mp ⟨kept, checkpoints.symm, geneses.symm⟩
    exact ⟨genesis_eq, specs.symm, transactions.symm, started, births⟩
  · intro admits
    obtain ⟨kept, hash_eq, _⟩ :=
      anchored.mpr ⟨admits.genesis, admits.started, admits.anchored⟩
    refine ⟨kept, rfl, ?_⟩
    have payload_eq : rebuiltPayload view.chain view.height
        (assembled keypair signature era request.ctx request.call) =
          signingPayload request.call request.ctx era.1 checkpoint := by
      rw [rebuilt, hash_eq, signingPayload, encodeImplicit, encodeImplicit]
      simp only [Chain.context, admits.genesis, admits.specVersion, admits.transactionVersion]
    rw [signable_eq, payload_eq]
    rw [signingContext_eq_extrinsicContext] at made
    exact correct _ _ _ _ _ _ made

/-- What fits in a length prefix decodes. -/
theorem decodeExtrinsic_encodeExtrinsic {output : List UInt8} {extrinsic : SignedExtrinsic}
    (output_eq : output = encodeExtrinsic extrinsic) (fits : output.length < 2 ^ 32) :
    decodeExtrinsic output = some extrinsic := by
  refine decodeExtrinsic_eq_some_iff.mpr ⟨?_, output_eq⟩
  rw [output_eq, encodeExtrinsic, withLength, List.length_append] at fits
  omega

/-- The payload of a short call is signed raw. -/
theorem noRebuiltCollision_of_short {call : List UInt8} (short : call.length ≤ 128)
    (extrinsic : SignedExtrinsic) : NoRebuiltCollision crates call ctx view extrinsic := by
  intro era checkpoint resolved long
  have era_length := length_encodeTo_of_resolveEra resolved
  have era_le : (if ctx.period = 0 then 1 else 2) ≤ 2 := by split_ifs <;> decide
  have nonce_length := Compact.length_encode_le (by decide : 4 ≤ 8)
    (ctx.nonce.toNat_lt.trans_eq (by decide))
  have tip_length := Compact.length_encode_le (by decide : 4 ≤ 16)
    (ctx.tip.isLt.trans_eq (by decide))
  rw [payloadHashThreshold] at long
  simp only [signingPayload, encodeExtra, List.length_append, length_encodeImplicit, era_length,
    compactU64_encode, compactU128_encode, List.length_singleton] at long
  omega

/-! ## Open contexts -/

/-- No other block whose hash is kept has the hash the context is anchored to. -/
def View.AnchorIsUnique (view : View) (ctx : SignContext) : Prop :=
  ∀ number, view.keeps number = true → view.chain.blockHash number = ctx.blockHash →
    number = ctx.blockNumber.toNat

/-- Where what is signed in a context belongs: anywhere after genesis for an
immortal one, and within the rounded period behind the anchor for a mortal one,
as long as the hash of the birth block is kept. -/
def View.IsOpenTo (view : View) (ctx : SignContext) : Prop :=
  if ctx.period = 0 then view.keeps 0 = true
  else view.keeps ctx.blockNumber.toNat = true ∧
    view.height < ctx.blockNumber.toNat + roundedPeriod ctx.period.toNat

/-- On a matching chain the runtime has what the context was signed for while
the context is open. -/
theorem admits_iff_isOpenTo (known : view.chain.Matches ctx) (unique : view.AnchorIsUnique ctx) :
    view.Admits ctx ↔ view.IsOpenTo ctx := by
  unfold View.IsOpenTo
  split_ifs with immortal
  · constructor
    · exact fun admits => admits.started immortal
    · intro started
      exact ⟨known.genesis, known.specVersion, known.transactionVersion, fun _ => started,
        fun mortal => absurd immortal mortal⟩
  · constructor
    · intro admits
      rcases admits.anchored immortal with ⟨birth, ⟨_, _, within⟩, kept, hash_eq⟩
      obtain rfl := unique birth kept hash_eq
      exact ⟨kept, within⟩
    · rintro ⟨kept, within⟩
      have anchor := known.anchor (UInt64.pos_iff_ne_zero.mpr immortal)
      refine ⟨known.genesis, known.specVersion, known.transactionVersion,
        fun zero => absurd zero immortal, fun _ => ⟨_, ?_, kept, anchor⟩⟩
      exact ⟨rfl, view.lt_of_keeps _ kept, within⟩

/-- On a chain that its context describes, what a request returned is accepted
exactly where the context is open. -/
theorem accepts_iff_isOpenTo {verifier : Verifier} (correct : verifier.Correct crates)
    {request : Request crates} {before after : Host} {output : List UInt8}
    {extrinsic : SignedExtrinsic} (ran : request.serve.run before = (.ok output, after))
    (decoded : decodeExtrinsic output = some extrinsic) (known : view.chain.Matches request.ctx)
    (unique : view.AnchorIsUnique request.ctx)
    (binds : verifier.Binds crates request.call request.ctx view extrinsic)
    (noCollision : NoRebuiltCollision crates request.call request.ctx view extrinsic) :
    view.accepts crates verifier extrinsic = true ↔ view.IsOpenTo request.ctx :=
  (accepts_iff_admits correct ran decoded binds noCollision).trans
    (admits_iff_isOpenTo known unique)

end Admission

end Runtime

namespace Reference

open Ext QuantusWasm.Runtime

/-- Padding keeps contents of one length apart. -/
theorem eq_of_take_padded_eq {left right : List UInt8} {length : Nat}
    (lengths : left.length = right.length) (fits : right.length ≤ length)
    (equal : (left ++ List.replicate (length + 32) 0).take length =
      (right ++ List.replicate (length + 32) 0).take length) : left = right := by
  have contents := congrArg (List.take right.length) equal
  rw [List.take_take, List.take_take, min_eq_left fits, List.take_left' lengths,
    List.take_left] at contents
  exact contents

/-- The reference verifier sees the whole message. -/
theorem eq_of_verifier {scheme : Scheme} {key : (crates.mlDsa scheme).Keypair}
    {message own : List UInt8} {hedge : Option Bytes32}
    {signature : List.Vector UInt8 scheme.signBytes} (short : own.length ≤ 256)
    (lengths : message.length = own.length)
    (made : (crates.mlDsa scheme).sign key own (some signingContext) hedge = some signature)
    (verified : verifier scheme ((crates.mlDsa scheme).publicKey key) message signature
      extrinsicContext = true) : message = own := by
  cases made
  rw [← signingContext_eq_extrinsicContext] at verified
  have shown := beq_iff_eq.mp verified
  rw [drop_fit_append _ (List.Vector.toList_length _),
    drop_fit_append _ (List.Vector.toList_length _)] at shown
  have padding : scheme.signBytes = scheme.signBytes - 32 + 32 := by cases scheme <;> rfl
  rw [padding, Nat.add_sub_cancel] at shown
  have context_length : signingContext.length = 17 := rfl
  have fits : scheme.publicKeyBytes + 17 + 256 ≤ scheme.signBytes - 32 := by
    cases scheme <;> decide
  have contents := eq_of_take_padded_eq (by simp [transcript, lengths]) (by
    simp only [transcript, List.length_append, List.Vector.toList_length, lengths,
      context_length]
    omega) shown
  exact (List.append_cancel_left contents).symm

/-- So it takes what is signed for nothing else, in any view. -/
theorem binds_of_run {request : Request crates} {before after : Host} {output : List UInt8}
    {extrinsic : SignedExtrinsic} (ran : request.serve.run before = (.ok output, after))
    (decoded : decodeExtrinsic output = some extrinsic) (view : View) :
    verifier.Binds crates request.call request.ctx view extrinsic := by
  obtain ⟨keypair, _, era, checkpoint, signature, _, _, resolved, made, output_eq, _⟩ :=
    exists_signature_of_ok ran
  obtain ⟨_, encoded⟩ := decodeExtrinsic_eq_some_iff.mp decoded
  obtain rfl := encodeExtrinsic_injective (encoded.symm.trans output_eq)
  intro own hash known verified
  cases resolved.symm.trans known
  refine eq_of_verifier (length_signedMessage_le _) ?_ made verified
  rw [signable_eq]
  apply length_signedMessage_eq
  rw [rebuiltPayload_assembled, signingPayload]
  simp only [List.length_append, length_encodeImplicit]

/-- The runtime of the reference chain at a height, with the hashes of all
blocks before. -/
def viewAt (height : Nat) : View where
  chain := chain
  height := height
  keeps number := decide (number < height)
  lt_of_keeps _ kept := of_decide_eq_true kept

theorem anchorIsUnique (height : Nat) : (viewAt height).AnchorIsUnique context := by
  intro number _ equal
  change (if number = 100 then context.blockHash else context.genesisHash) = context.blockHash
    at equal
  split_ifs at equal with anchor
  · exact anchor
  · exact absurd equal (by decide)

/-- A request in the reference context. -/
def mortalRequest : Request crates :=
  .signCallWithKeypair (keypair .mlDsa65) [2, 3] context

/-- A mortal extrinsic is accepted at the last height of its period and no
longer at the next. -/
theorem accepts_iff_isOpenTo_around :
    ∃ output after extrinsic, mortalRequest.serve.run Host.initial = (.ok output, after) ∧
      decodeExtrinsic output = some extrinsic ∧
      (viewAt 163).accepts crates verifier extrinsic = true ∧
      (viewAt 164).accepts crates verifier extrinsic ≠ true := by
  obtain ⟨output, after, ran⟩ : ∃ output after,
      mortalRequest.serve.run Host.initial = (.ok output, after) :=
    exists_run_signCallWithKeypair resolveEra_reference _ _ (by decide)
  obtain ⟨_, _, _, _, _, found, _, resolved, _, output_eq, _⟩ := exists_signature_of_ok ran
  cases found
  have decoded := decodeExtrinsic_eq_some_iff.mpr
    ⟨(length_body_assembled resolved).trans_lt (by decide), output_eq⟩
  refine ⟨output, after, _, ran, decoded, ?_, ?_⟩
  · refine (@accepts_iff_isOpenTo crates (viewAt 163) _ verifier_correct mortalRequest _ _ _ _ ran
      decoded chain_matches (anchorIsUnique _) (binds_of_run ran decoded _)
      (noRebuiltCollision_of_short (by decide) _)).mpr ?_
    exact ⟨by decide, by decide⟩
  · intro accepted
    have opened := (@accepts_iff_isOpenTo crates (viewAt 164) _ verifier_correct mortalRequest
      _ _ _ _ ran decoded chain_matches (anchorIsUnique _) (binds_of_run ran decoded _)
      (noRebuiltCollision_of_short (by decide) _)).mp accepted
    exact absurd opened.2 (by decide)

end Reference

end QuantusWasm
