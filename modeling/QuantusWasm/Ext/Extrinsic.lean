import QuantusWasm.Crates
import QuantusWasm.Effect.Action
import QuantusWasm.Ext.Era

/-!
# Signed extrinsics

Account derivation and the assembly of signed extrinsics in `src/ext.rs`.  A
function that draws randomness or signs is an action on the host; the rest is
pure.  The second half says what a signing function does to the host and what
it returns, in every case.
-/

namespace QuantusWasm.Ext

open Effect Codec

/-- A signing key of either scheme. -/
structure Keypair (crates : Crates) where
  scheme : Scheme
  key : (crates.mlDsa scheme).Keypair

namespace Keypair

/-- Keypair from the first 32 bytes of the seed. -/
def fromSeed (crates : Crates) (seed : List UInt8) (scheme : Scheme) :
    Except Error (Keypair crates) :=
  if long : 32 ≤ seed.length then
    .ok ⟨scheme, (crates.mlDsa scheme).generate ⟨seed.take 32, List.length_take_of_le long⟩⟩
  else
    .error .invalidSeed

variable {crates : Crates}

/-- Bytes of the public key. -/
def publicKey (keypair : Keypair crates) : List UInt8 :=
  ((crates.mlDsa keypair.scheme).publicKey keypair.key).toList

/-- Bytes of the secret key. -/
def secretKey (keypair : Keypair crates) : List UInt8 :=
  ((crates.mlDsa keypair.scheme).secretKey keypair.key).toList

/-- What the ML-DSA crate returns for a message under the signing context. -/
def rawSign (keypair : Keypair crates) (message : List UInt8) (hedge : Option Bytes32) :
    Option (List UInt8) :=
  ((crates.mlDsa keypair.scheme).sign keypair.key message (some signingContext) hedge).map
    fun signature => signature.toList

/-- The trace a signing operation leaves. -/
def record (keypair : Keypair crates) (message : List UInt8) (hedge : Option Bytes32) :
    SignatureRecord where
  scheme := keypair.scheme
  publicKey := keypair.publicKey
  message := message
  context := some signingContext
  hedge := hedge
  signature := keypair.rawSign message hedge

/-- Sign under the signing context. -/
def sign (keypair : Keypair crates) (message : List UInt8) (hedge : Option Bytes32) :
    Action Host Error (List UInt8) := do
  Action.update fun host => host.signed (keypair.record message hedge)
  match keypair.rawSign message hedge with
  | some signature => pure signature
  | none => Action.throw .signingFailed

end Keypair

/-- 32 bytes of fresh randomness for one hedged signature. -/
def freshHedge (crates : Crates) : Action Host Error Bytes32 := do
  let draws ← Action.query Host.draws
  Action.update Host.drawn
  match crates.getrandom draws with
  | some hedge => pure hedge
  | none => Action.throw .rngFailed

/-- Account id: the Poseidon hash of the public key. -/
def accountIdFromPublic (crates : Crates) (publicKey : List UInt8) : AccountId32 :=
  crates.hashBytes publicKey

/-- Account material of an already derived keypair. -/
def deriveAccountFromKeypair {crates : Crates} (keypair : Keypair crates) : AccountKeys where
  scheme := keypair.scheme
  publicKey := keypair.publicKey
  secretKey := keypair.secretKey
  accountId := accountIdFromPublic crates keypair.publicKey
  address := crates.toSs58checkWithVersion (accountIdFromPublic crates keypair.publicKey)
    ss58Prefix

/-- Account material of a seed. -/
def deriveAccount (crates : Crates) (seed : List UInt8) (scheme : Scheme) :
    Except Error AccountKeys := do
  let keypair ← Keypair.fromSeed crates seed scheme
  pure (deriveAccountFromKeypair keypair)

/-- `MultiAddress::Id`. -/
def encodeAddress (account : AccountId32) : List UInt8 :=
  0 :: account.toList

/-- The runtime call of a transfer. -/
def encodeCall (params : TransferParams) : List UInt8 :=
  match params.assetId with
  | none =>
      [balancesPallet,
        if params.keepAlive then balancesTransferKeepAlive else balancesTransferAllowDeath] ++
      encodeAddress params.recipient ++ compactU128.encode params.amount
  | some assetId =>
      [assetsPallet, assetsTransfer] ++ compactU32.encode assetId ++
      encodeAddress params.recipient ++ compactU128.encode params.amount

/-- Transmitted and signed: mortality, nonce, tip and metadata mode. -/
def encodeExtra (era : Era) (nonce : UInt64) (tip : BitVec 128) : List UInt8 :=
  era.encodeTo ++ compactU64.encode nonce ++ compactU128.encode tip ++ [0]

/-- Signed only: versions, genesis, checkpoint and absent metadata hash. -/
def encodeImplicit (ctx : SignContext) (eraCheckpointHash : Bytes32) : List UInt8 :=
  littleEndian 4 ctx.specVersion.toNat ++ littleEndian 4 ctx.transactionVersion.toNat ++
    ctx.genesisHash.toList ++ eraCheckpointHash.toList ++ [0]

/-- The era and the block hash that anchors it. -/
def resolveEra (ctx : SignContext) : Except Error (Era × Bytes32) :=
  if ctx.period = 0 then
    .ok (.Immortal, ctx.genesisHash)
  else
    let era := Era.mortal ctx.period ctx.blockNumber
    if era.birth ctx.blockNumber ≠ ctx.blockNumber then
      .error .invalidMortality
    else
      .ok (era, ctx.blockHash)

section Signing

variable {crates : Crates}

/-- Sign a payload, or its hash if it is long. -/
def signPayload (keypair : Keypair crates) (payload : List UInt8) (hedge : Option Bytes32) :
    Action Host Error (List UInt8) :=
  if payload.length > payloadHashThreshold then
    keypair.sign (crates.blake2_256 payload).toList hedge
  else
    keypair.sign payload hedge

/-- Resolve the era, sign the payload, and put the extrinsic together. -/
def assembleExtrinsic (keypair : Keypair crates) (call : List UInt8) (ctx : SignContext)
    (hedge : Option Bytes32) : Action Host Error (List UInt8) := do
  let publicKey := keypair.publicKey
  let account := accountIdFromPublic crates publicKey
  let (era, eraCheckpointHash) ← Action.ofExcept (resolveEra ctx)
  let extra := encodeExtra era ctx.nonce ctx.tip
  let implicit := encodeImplicit ctx eraCheckpointHash
  let payload := call ++ extra ++ implicit
  let signature ← signPayload keypair payload hedge
  let signatureField := [keypair.scheme.variant] ++ signature ++ publicKey
  let body := [0b10000000 ||| extrinsicVersion] ++ encodeAddress account ++ signatureField ++
    extra ++ call
  pure (compactU32.encode (UInt32.ofNat body.length) ++ body)

/-- Sign an encoded call, hedged with fresh randomness. -/
def signCallWithKeypair (keypair : Keypair crates) (call : List UInt8) (ctx : SignContext) :
    Action Host Error (List UInt8) := do
  let hedge ← freshHedge crates
  assembleExtrinsic keypair call ctx (some hedge)

/-- Sign an encoded call with the key of a seed. -/
def signCall (crates : Crates) (seed : List UInt8) (scheme : Scheme) (call : List UInt8)
    (ctx : SignContext) : Action Host Error (List UInt8) := do
  let keypair ← Action.ofExcept (Keypair.fromSeed crates seed scheme)
  signCallWithKeypair keypair call ctx

/-- Sign a transfer. -/
def signTransferWithKeypair (keypair : Keypair crates) (params : TransferParams) :
    Action Host Error (List UInt8) :=
  signCallWithKeypair keypair (encodeCall params) params.ctx

/-- Sign a transfer with the key of a seed. -/
def signTransfer (crates : Crates) (seed : List UInt8) (scheme : Scheme)
    (params : TransferParams) : Action Host Error (List UInt8) := do
  let keypair ← Action.ofExcept (Keypair.fromSeed crates seed scheme)
  signTransferWithKeypair keypair params

/-! ## What a signing function does -/

/-- The bytes handed to ML-DSA for a payload. -/
def signedMessage (crates : Crates) (payload : List UInt8) : List UInt8 :=
  if payload.length > payloadHashThreshold then (crates.blake2_256 payload).toList else payload

/-- What a signature is over, before it is hashed. -/
def signingPayload (call : List UInt8) (ctx : SignContext) (era : Era)
    (eraCheckpointHash : Bytes32) : List UInt8 :=
  call ++ encodeExtra era ctx.nonce ctx.tip ++ encodeImplicit ctx eraCheckpointHash

/-- Everything an extrinsic holds behind its length. -/
def extrinsicBody (keypair : Keypair crates) (signature : List UInt8) (era : Era)
    (ctx : SignContext) (call : List UInt8) : List UInt8 :=
  [0b10000000 ||| extrinsicVersion] ++
    encodeAddress (accountIdFromPublic crates keypair.publicKey) ++
    ([keypair.scheme.variant] ++ signature ++ keypair.publicKey) ++
    encodeExtra era ctx.nonce ctx.tip ++ call

/-- The extrinsic of a body. -/
def withLength (body : List UInt8) : List UInt8 :=
  compactU32.encode (UInt32.ofNat body.length) ++ body

theorem signPayload_eq_sign (keypair : Keypair crates) (payload : List UInt8)
    (hedge : Option Bytes32) :
    signPayload keypair payload hedge = keypair.sign (signedMessage crates payload) hedge := by
  unfold signPayload signedMessage
  split_ifs <;> rfl

theorem run_sign (keypair : Keypair crates) (message : List UInt8) (hedge : Option Bytes32)
    (host : Host) :
    (keypair.sign message hedge).run host =
      ((keypair.rawSign message hedge).elim (.error .signingFailed) .ok,
        host.signed (keypair.record message hedge)) := by
  rw [Keypair.sign, Action.run_bind_of_ok (Action.run_update _ _)]
  cases keypair.rawSign message hedge <;> rfl

/-- Assembly fails before it signs or signs exactly once. -/
theorem run_assembleExtrinsic (keypair : Keypair crates) (call : List UInt8)
    (ctx : SignContext) (hedge : Option Bytes32) (host : Host) :
    (assembleExtrinsic keypair call ctx hedge).run host =
      match resolveEra ctx with
      | .error failure => (.error failure, host)
      | .ok (era, checkpoint) =>
          let message := signedMessage crates (signingPayload call ctx era checkpoint)
          ((keypair.rawSign message hedge).elim (.error .signingFailed) fun signature =>
            .ok (withLength (extrinsicBody keypair signature era ctx call)),
            host.signed (keypair.record message hedge)) := by
  unfold assembleExtrinsic
  cases resolved : resolveEra ctx with
  | error failure => exact Action.run_bind_of_error (Action.run_ofExcept _ _) _
  | ok anchored =>
      rcases anchored with ⟨era, checkpoint⟩
      rw [Action.run_bind_of_ok (Action.run_ofExcept _ _)]
      simp only [signPayload_eq_sign]
      have ran := run_sign keypair
        (signedMessage crates (signingPayload call ctx era checkpoint)) hedge host
      cases signed : keypair.rawSign
          (signedMessage crates (signingPayload call ctx era checkpoint)) hedge with
      | none =>
          rw [signed] at ran
          exact Action.run_bind_of_error ran _
      | some signature =>
          rw [signed] at ran
          exact Action.run_bind_of_ok ran _

/-- Assembly returns exactly when the era resolves and ML-DSA signs, and then
it returns the extrinsic around that signature. -/
theorem run_assembleExtrinsic_eq_ok_iff {keypair : Keypair crates} {call : List UInt8}
    {ctx : SignContext} {hedge : Option Bytes32} {host after : Host} {output : List UInt8} :
    (assembleExtrinsic keypair call ctx hedge).run host = (.ok output, after) ↔
      ∃ era checkpoint signature, resolveEra ctx = .ok (era, checkpoint) ∧
        keypair.rawSign (signedMessage crates (signingPayload call ctx era checkpoint)) hedge =
          some signature ∧
        output = withLength (extrinsicBody keypair signature era ctx call) ∧
        after = host.signed (keypair.record
          (signedMessage crates (signingPayload call ctx era checkpoint)) hedge) := by
  rw [run_assembleExtrinsic]
  cases resolveEra ctx with
  | error failure => simp
  | ok anchored =>
      rcases anchored with ⟨era, checkpoint⟩
      cases signed : keypair.rawSign
          (signedMessage crates (signingPayload call ctx era checkpoint)) hedge with
      | none => simp [signed]
      | some signature =>
          simp only [signed, Option.elim_some, Prod.mk.injEq, Except.ok.injEq]
          constructor
          · rintro ⟨rfl, rfl⟩
            exact ⟨era, checkpoint, signature, ⟨rfl, rfl⟩, signed, rfl, rfl⟩
          · rintro ⟨_, _, _, ⟨rfl, rfl⟩, known, rfl, rfl⟩
            rw [signed] at known
            cases known
            exact ⟨rfl, rfl⟩

theorem run_freshHedge (crates : Crates) (host : Host) :
    (freshHedge crates).run host =
      ((crates.getrandom host.draws).elim (.error .rngFailed) .ok, host.drawn) := by
  rw [freshHedge, Action.run_bind_of_ok (Action.run_query _ _),
    Action.run_bind_of_ok (Action.run_update _ _)]
  cases crates.getrandom host.draws <;> rfl

/-- Every call draws first; a failed draw ends it. -/
theorem run_signCallWithKeypair (keypair : Keypair crates) (call : List UInt8)
    (ctx : SignContext) (host : Host) :
    (signCallWithKeypair keypair call ctx).run host =
      match crates.getrandom host.draws with
      | none => (.error .rngFailed, host.drawn)
      | some hedge => (assembleExtrinsic keypair call ctx (some hedge)).run host.drawn := by
  have drew := run_freshHedge crates host
  unfold signCallWithKeypair
  cases drawn : crates.getrandom host.draws with
  | none =>
      rw [drawn] at drew
      exact Action.run_bind_of_error drew _
  | some hedge =>
      rw [drawn] at drew
      exact Action.run_bind_of_ok drew _

end Signing

/-! ## Requests -/

/-- A call of one of the four signing functions. -/
inductive Request (crates : Crates) where
  | signCall (seed : List UInt8) (scheme : Scheme) (call : List UInt8) (ctx : SignContext)
  | signTransfer (seed : List UInt8) (scheme : Scheme) (params : TransferParams)
  | signCallWithKeypair (keypair : Keypair crates) (call : List UInt8) (ctx : SignContext)
  | signTransferWithKeypair (keypair : Keypair crates) (params : TransferParams)

namespace Request

variable {crates : Crates}

/-- The function that a request calls. -/
def serve : Request crates → Action Host Error (List UInt8)
  | signCall seed scheme call ctx => Ext.signCall crates seed scheme call ctx
  | signTransfer seed scheme params => Ext.signTransfer crates seed scheme params
  | signCallWithKeypair keypair call ctx => Ext.signCallWithKeypair keypair call ctx
  | signTransferWithKeypair keypair params => Ext.signTransferWithKeypair keypair params

/-- The key a request signs with. -/
def keypair : Request crates → Except Error (Keypair crates)
  | signCall seed scheme _ _ => Keypair.fromSeed crates seed scheme
  | signTransfer seed scheme _ => Keypair.fromSeed crates seed scheme
  | signCallWithKeypair keypair _ _ => .ok keypair
  | signTransferWithKeypair keypair _ => .ok keypair

/-- The call a request signs. -/
def call : Request crates → List UInt8
  | signCall _ _ call _ => call
  | signTransfer _ _ params => encodeCall params
  | signCallWithKeypair _ call _ => call
  | signTransferWithKeypair _ params => encodeCall params

/-- The context a request signs in. -/
def ctx : Request crates → SignContext
  | signCall _ _ _ ctx => ctx
  | signTransfer _ _ params => params.ctx
  | signCallWithKeypair _ _ ctx => ctx
  | signTransferWithKeypair _ params => params.ctx

/-- All four functions sign their call with their key. -/
theorem run_serve (request : Request crates) (host : Host) :
    request.serve.run host =
      match request.keypair with
      | .error failure => (.error failure, host)
      | .ok keypair => (Ext.signCallWithKeypair keypair request.call request.ctx).run host := by
  cases request with
  | signCall seed scheme call ctx =>
      rw [serve, keypair, Ext.signCall]
      cases Keypair.fromSeed crates seed scheme <;> rfl
  | signTransfer seed scheme params =>
      rw [serve, keypair, Ext.signTransfer]
      cases Keypair.fromSeed crates seed scheme <;> rfl
  | signCallWithKeypair keypair call ctx => rfl
  | signTransferWithKeypair keypair params => rfl

/-- The message a request hands to ML-DSA once its era resolves. -/
def message (request : Request crates) (era : Era) (checkpoint : Bytes32) : List UInt8 :=
  signedMessage crates (signingPayload request.call request.ctx era checkpoint)

/-- All that serving a request can come to: the seed is too short, the draw
fails, the era does not resolve, ML-DSA fails, or an extrinsic is returned. -/
inductive Served (request : Request crates) (before : Host) :
    Except Error (List UInt8) → Host → Prop
  | unkeyed {failure : Error} (found : request.keypair = .error failure) :
      Served request before (.error failure) before
  | undrawn {keypair : Keypair crates} (found : request.keypair = .ok keypair)
      (drawn : crates.getrandom before.draws = none) :
      Served request before (.error .rngFailed) before.drawn
  | unresolved {keypair : Keypair crates} {hedge : Bytes32} {failure : Error}
      (found : request.keypair = .ok keypair)
      (drawn : crates.getrandom before.draws = some hedge)
      (refused : resolveEra request.ctx = .error failure) :
      Served request before (.error failure) before.drawn
  | unsigned {keypair : Keypair crates} {hedge : Bytes32} {era : Era} {checkpoint : Bytes32}
      (found : request.keypair = .ok keypair)
      (drawn : crates.getrandom before.draws = some hedge)
      (resolved : resolveEra request.ctx = .ok (era, checkpoint))
      (refused : keypair.rawSign (request.message era checkpoint) (some hedge) = none) :
      Served request before (.error .signingFailed)
        (before.drawn.signed (keypair.record (request.message era checkpoint) (some hedge)))
  | signed {keypair : Keypair crates} {hedge : Bytes32} {era : Era} {checkpoint : Bytes32}
      {signature : List UInt8} (found : request.keypair = .ok keypair)
      (drawn : crates.getrandom before.draws = some hedge)
      (resolved : resolveEra request.ctx = .ok (era, checkpoint))
      (made : keypair.rawSign (request.message era checkpoint) (some hedge) = some signature) :
      Served request before
        (.ok (withLength (extrinsicBody keypair signature era request.ctx request.call)))
        (before.drawn.signed (keypair.record (request.message era checkpoint) (some hedge)))

theorem served_of_run {request : Request crates} {before after : Host}
    {result : Except Error (List UInt8)} (ran : request.serve.run before = (result, after)) :
    Served request before result after := by
  rw [run_serve] at ran
  cases found : request.keypair with
  | error failure =>
      rw [found] at ran
      cases ran
      exact .unkeyed found
  | ok keypair =>
      simp only [found, run_signCallWithKeypair] at ran
      cases drawn : crates.getrandom before.draws with
      | none =>
          rw [drawn] at ran
          cases ran
          exact .undrawn found drawn
      | some hedge =>
          simp only [drawn, run_assembleExtrinsic] at ran
          cases resolved : resolveEra request.ctx with
          | error failure =>
              rw [resolved] at ran
              cases ran
              exact .unresolved found drawn resolved
          | ok anchored =>
              rcases anchored with ⟨era, checkpoint⟩
              simp only [resolved] at ran
              cases made : keypair.rawSign (request.message era checkpoint) (some hedge) with
              | none =>
                  rw [message] at made
                  rw [made] at ran
                  cases ran
                  exact .unsigned found drawn resolved made
              | some signature =>
                  rw [message] at made
                  rw [made] at ran
                  cases ran
                  exact .signed found drawn resolved made

end Request

end QuantusWasm.Ext
