import QuantusWasm.Runtime.RoundTrip

/-!
# What a signature authorises

The signed payload is a call, the transmitted extensions and the signed-only
fields, one after the other and without a length.  The call is self-delimiting
by assumption, the extensions are a codec and the rest has a fixed width, so
the payload determines all of them; being longer than a digest, it is never
mistaken for one.
-/

namespace QuantusWasm

namespace Runtime

open Ext Codec

@[simp]
theorem length_encodeImplicit (ctx : SignContext) (checkpoint : Bytes32) :
    (encodeImplicit ctx checkpoint).length = 73 := by
  simp [encodeImplicit]

theorem littleEndian_four_inj {left right : UInt32}
    (equal : littleEndian 4 left.toNat = littleEndian 4 right.toNat) : left = right := by
  apply UInt32.toNat_inj.mp
  exact littleEndian_injOn left.toNat_lt right.toNat_lt equal

/-- The signed-only fields have fixed widths. -/
theorem encodeImplicit_inj {left right : SignContext} {leftCheckpoint rightCheckpoint : Bytes32}
    (equal : encodeImplicit left leftCheckpoint = encodeImplicit right rightCheckpoint) :
    left.specVersion = right.specVersion ∧
      left.transactionVersion = right.transactionVersion ∧
      left.genesisHash = right.genesisHash ∧ leftCheckpoint = rightCheckpoint := by
  rcases List.append_inj' equal rfl with ⟨withCheckpoint, _⟩
  rcases List.append_inj' withCheckpoint (by simp) with ⟨withGenesis, checkpoint⟩
  rcases List.append_inj' withGenesis (by simp) with ⟨versions, genesis⟩
  rcases List.append_inj' versions (by simp) with ⟨spec, transaction⟩
  refine ⟨littleEndian_four_inj spec, littleEndian_four_inj transaction, ?_, ?_⟩
  · exact List.Vector.eq _ _ genesis
  · exact List.Vector.eq _ _ checkpoint

theorem encodeExtra_append_inj {left right : Era} (leftStorable : left.WellFormed)
    (rightStorable : right.WellFormed) {leftNonce rightNonce : UInt64}
    {leftTip rightTip : BitVec 128} {leftRest rightRest : List UInt8}
    (equal : encodeExtra left leftNonce leftTip ++ leftRest =
      encodeExtra right rightNonce rightTip ++ rightRest) :
    left = right ∧ leftNonce = rightNonce ∧ leftTip = rightTip ∧ leftRest = rightRest := by
  have encoded : extensionsCodec.encode ⟨⟨left, leftStorable⟩, leftNonce, leftTip⟩ ++ leftRest =
      extensionsCodec.encode ⟨⟨right, rightStorable⟩, rightNonce, rightTip⟩ ++ rightRest := by
    simpa only [extensionsCodec_encode] using equal
  obtain ⟨fields, rests⟩ := extensionsCodec.encode_append_inj encoded
  simp only [Extensions.mk.injEq, Subtype.mk.injEq] at fields
  exact ⟨fields.1, fields.2.1, fields.2.2, rests⟩

/-- The payload determines the call and everything it is signed with. -/
theorem signingPayload_inj {words : Set (List UInt8)} (prefixFree : IsPrefixFree words)
    {leftCall rightCall : List UInt8} (leftMem : leftCall ∈ words) (rightMem : rightCall ∈ words)
    {left right : SignContext} {leftEra rightEra : Era} (leftStorable : leftEra.WellFormed)
    (rightStorable : rightEra.WellFormed) {leftCheckpoint rightCheckpoint : Bytes32}
    (equal : signingPayload leftCall left leftEra leftCheckpoint =
      signingPayload rightCall right rightEra rightCheckpoint) :
    leftCall = rightCall ∧ leftEra = rightEra ∧ left.nonce = right.nonce ∧
      left.tip = right.tip ∧ left.specVersion = right.specVersion ∧
      left.transactionVersion = right.transactionVersion ∧
      left.genesisHash = right.genesisHash ∧ leftCheckpoint = rightCheckpoint := by
  simp only [signingPayload, List.append_assoc] at equal
  obtain ⟨calls, rests⟩ := prefixFree.append_inj leftMem rightMem equal
  obtain ⟨eras, nonces, tips, implicits⟩ :=
    encodeExtra_append_inj leftStorable rightStorable rests
  obtain ⟨specs, transactions, geneses, checkpoints⟩ := encodeImplicit_inj implicits
  exact ⟨calls, eras, nonces, tips, specs, transactions, geneses, checkpoints⟩

theorem lt_length_signingPayload (call : List UInt8) (ctx : SignContext) (era : Era)
    (checkpoint : Bytes32) : 32 < (signingPayload call ctx era checkpoint).length := by
  rw [signingPayload, List.length_append, length_encodeImplicit]
  omega

section Messages

variable {crates : Crates}

theorem signedMessage_of_le {payload : List UInt8} (short : payload.length ≤ 256) :
    signedMessage crates payload = payload :=
  if_neg (Nat.not_lt.mpr short)

theorem signedMessage_of_gt {payload : List UInt8} (long : 256 < payload.length) :
    signedMessage crates payload = (crates.blake2_256 payload).toList :=
  if_pos long

theorem length_signedMessage_le (payload : List UInt8) :
    (signedMessage crates payload).length ≤ payloadHashThreshold := by
  unfold signedMessage
  split_ifs with long
  · rw [List.Vector.toList_length]
    decide
  · exact Nat.not_lt.mp long

/-- Payloads of one length are signed as messages of one length. -/
theorem length_signedMessage_eq {left right : List UInt8} (lengths : left.length = right.length) :
    (signedMessage crates left).length = (signedMessage crates right).length := by
  unfold signedMessage
  rw [lengths]
  split_ifs
  · rw [List.Vector.toList_length, List.Vector.toList_length]
  · exact lengths

/-- A payload signed raw is longer than any digest. -/
theorem signedMessage_ne_of_le_of_gt {left right : List UInt8} (left_length : 32 < left.length)
    (short : left.length ≤ 256) (long : 256 < right.length) :
    signedMessage crates left ≠ signedMessage crates right := by
  rw [signedMessage_of_le short, signedMessage_of_gt long]
  intro equal
  have lengths := congrArg List.length equal
  rw [List.Vector.toList_length] at lengths
  exact absurd left_length (by rw [lengths]; exact lt_irrefl 32)

/-- Without a hash collision the message determines the payload. -/
theorem signedMessage_inj {left right : List UInt8} (left_length : 32 < left.length)
    (right_length : 32 < right.length)
    (noCollision : crates.blake2_256 left = crates.blake2_256 right → left = right)
    (equal : signedMessage crates left = signedMessage crates right) : left = right := by
  rcases Nat.lt_or_ge 256 left.length with leftLong | leftShort
  · rcases Nat.lt_or_ge 256 right.length with rightLong | rightShort
    · rw [signedMessage_of_gt leftLong, signedMessage_of_gt rightLong] at equal
      exact noCollision (List.Vector.eq _ _ equal)
    · exact absurd equal.symm (signedMessage_ne_of_le_of_gt right_length rightShort leftLong)
  · rcases Nat.lt_or_ge 256 right.length with rightLong | rightShort
    · exact absurd equal (signedMessage_ne_of_le_of_gt left_length leftShort rightLong)
    · rw [signedMessage_of_le leftShort, signedMessage_of_le rightShort] at equal
      exact equal

/-- Payloads of one length can only collide when they are hashed. -/
theorem signedMessage_inj_of_length_eq {left right : List UInt8}
    (lengths : left.length = right.length)
    (noCollision : payloadHashThreshold < left.length →
      crates.blake2_256 left = crates.blake2_256 right → left = right)
    (equal : signedMessage crates left = signedMessage crates right) : left = right := by
  by_cases long : payloadHashThreshold < left.length
  · rw [signedMessage_of_gt long, signedMessage_of_gt (lengths ▸ long)] at equal
    exact noCollision long (List.Vector.eq _ _ equal)
  · have short := Nat.not_lt.mp long
    rw [signedMessage_of_le short, signedMessage_of_le (lengths ▸ short)] at equal
    exact equal

/-! ## Signings -/

/-- The payload of a request whose era resolves. -/
def requestPayload (request : Request crates) : Except Error (List UInt8) :=
  (resolveEra request.ctx).map fun (era, checkpoint) =>
    signingPayload request.call request.ctx era checkpoint

/-- A request in whose run one message was handed to ML-DSA. -/
structure Signing (crates : Crates) where
  request : Request crates
  before : Host
  after : Host
  result : Except Error (List UInt8)
  record : SignatureRecord
  ran : request.serve.run before = (result, after)
  logged : after.signatures = before.signatures ++ [record]

/-- The hash function does not confuse the payloads of two requests. -/
def NoCollision (first second : Request crates) : Prop :=
  ∀ left right, requestPayload first = .ok left → requestPayload second = .ok right →
    crates.blake2_256 left = crates.blake2_256 right → left = right

/-- A request logs at most one message, that of its resolved payload. -/
theorem message_eq_of_logged {request : Request crates} {before after : Host}
    {result : Except Error (List UInt8)} {record : SignatureRecord}
    (ran : request.serve.run before = (result, after))
    (logged : after.signatures = before.signatures ++ [record]) :
    ∃ era checkpoint, resolveEra request.ctx = .ok (era, checkpoint) ∧
      record.message = request.message era checkpoint := by
  cases Request.served_of_run ran with
  | unkeyed found => simp at logged
  | undrawn found drawn => simp at logged
  | unresolved found drawn refused => simp at logged
  | unsigned found drawn resolved refused =>
      rw [Host.signatures_signed, Host.signatures_drawn, List.append_cancel_left_eq,
        List.singleton_inj] at logged
      exact ⟨_, _, resolved, congrArg SignatureRecord.message logged.symm⟩
  | signed found drawn resolved made =>
      rw [Host.signatures_signed, Host.signatures_drawn, List.append_cancel_left_eq,
        List.singleton_inj] at logged
      exact ⟨_, _, resolved, congrArg SignatureRecord.message logged.symm⟩

theorem Signing.exists_resolved (signing : Signing crates) :
    ∃ era checkpoint, resolveEra signing.request.ctx = .ok (era, checkpoint) ∧
      signing.record.message = signing.request.message era checkpoint :=
  message_eq_of_logged signing.ran signing.logged

theorem requestPayload_eq_of_resolved {request : Request crates} {era : Era}
    {checkpoint : Bytes32} (resolved : resolveEra request.ctx = .ok (era, checkpoint)) :
    requestPayload request = .ok (signingPayload request.call request.ctx era checkpoint) := by
  rw [requestPayload, resolved]
  rfl

/-- The transfer a request asks for, if it is one. -/
def requestTransfer : Request crates → Option TransferParams
  | .signTransfer _ _ params => some params
  | .signTransferWithKeypair _ params => some params
  | .signCall .. => none
  | .signCallWithKeypair .. => none

theorem call_eq_of_requestTransfer {request : Request crates} {params : TransferParams}
    (transfer : requestTransfer request = some params) : request.call = encodeCall params := by
  cases request with
  | signTransfer seed scheme own =>
      cases transfer
      rfl
  | signTransferWithKeypair keypair own =>
      cases transfer
      rfl
  | signCall seed scheme call ctx => contradiction
  | signCallWithKeypair keypair call ctx => contradiction

/-- Equal messages come from equal calls and contexts, the calls being drawn
from a prefix-free set. -/
theorem Signing.eq_of_message_eq {words : Set (List UInt8)} (prefixFree : IsPrefixFree words)
    {first second : Signing crates} (firstMem : first.request.call ∈ words)
    (secondMem : second.request.call ∈ words)
    (noCollision : NoCollision first.request second.request)
    (equal : first.record.message = second.record.message) :
    first.request.call = second.request.call ∧
      (∃ era checkpoint, resolveEra first.request.ctx = .ok (era, checkpoint) ∧
        resolveEra second.request.ctx = .ok (era, checkpoint)) ∧
      first.request.ctx.nonce = second.request.ctx.nonce ∧
      first.request.ctx.tip = second.request.ctx.tip ∧
      first.request.ctx.specVersion = second.request.ctx.specVersion ∧
      first.request.ctx.transactionVersion = second.request.ctx.transactionVersion ∧
      first.request.ctx.genesisHash = second.request.ctx.genesisHash := by
  obtain ⟨firstEra, firstCheckpoint, firstResolved, firstMessage⟩ := first.exists_resolved
  obtain ⟨secondEra, secondCheckpoint, secondResolved, secondMessage⟩ := second.exists_resolved
  rw [firstMessage, secondMessage] at equal
  have payloads := signedMessage_inj (lt_length_signingPayload _ _ _ _)
    (lt_length_signingPayload _ _ _ _)
    (noCollision _ _ (requestPayload_eq_of_resolved firstResolved)
      (requestPayload_eq_of_resolved secondResolved)) equal
  obtain ⟨calls, eras, nonces, tips, specs, transactions, geneses, checkpoints⟩ :=
    signingPayload_inj prefixFree firstMem secondMem (wellFormed_of_resolveEra firstResolved)
      (wellFormed_of_resolveEra secondResolved) payloads
  subst eras checkpoints
  exact ⟨calls, ⟨firstEra, firstCheckpoint, firstResolved, secondResolved⟩, nonces, tips, specs,
    transactions, geneses⟩

theorem Signing.sameTransfer_of_message_eq {first second : Signing crates}
    {left right : TransferParams} (firstTransfer : requestTransfer first.request = some left)
    (secondTransfer : requestTransfer second.request = some right)
    (noCollision : NoCollision first.request second.request)
    (equal : first.record.message = second.record.message) : SameTransfer left right := by
  have firstCall := call_eq_of_requestTransfer firstTransfer
  have secondCall := call_eq_of_requestTransfer secondTransfer
  have calls := (Signing.eq_of_message_eq range_encodeCall_isPrefixFree
    ⟨left, firstCall.symm⟩ ⟨right, secondCall.symm⟩ noCollision equal).1
  rw [firstCall, secondCall] at calls
  exact encodeCall_eq_iff.mp calls

theorem Signing.message_ne_of_le_of_gt {first second : Signing crates} {raw long : List UInt8}
    (rawPayload : requestPayload first.request = .ok raw)
    (longPayload : requestPayload second.request = .ok long)
    (raw_le : raw.length ≤ 256) (lt_long : 256 < long.length) :
    first.record.message ≠ second.record.message := by
  obtain ⟨firstEra, firstCheckpoint, firstResolved, firstMessage⟩ := first.exists_resolved
  obtain ⟨secondEra, secondCheckpoint, secondResolved, secondMessage⟩ := second.exists_resolved
  rw [requestPayload_eq_of_resolved firstResolved] at rawPayload
  rw [requestPayload_eq_of_resolved secondResolved] at longPayload
  cases rawPayload
  cases longPayload
  rw [firstMessage, secondMessage]
  exact signedMessage_ne_of_le_of_gt (lt_length_signingPayload _ _ _ _) raw_le lt_long

/-- A signature authorises one transaction.  Transfer calls are prefix-free;
signings of one message with calls from any prefix-free set agree in the call
and in everything it is signed with, and two transfers in what they ask for;
and no raw payload is the digest of a long one. -/
theorem signature_authorises_one_transaction (crates : Crates) :
    IsPrefixFree (Set.range encodeCall) ∧
    (∀ words, IsPrefixFree words → ∀ first second : Signing crates,
      first.request.call ∈ words → second.request.call ∈ words →
      NoCollision first.request second.request →
      first.record.message = second.record.message →
      first.request.call = second.request.call ∧
        (∃ era checkpoint, resolveEra first.request.ctx = .ok (era, checkpoint) ∧
          resolveEra second.request.ctx = .ok (era, checkpoint)) ∧
        first.request.ctx.nonce = second.request.ctx.nonce ∧
        first.request.ctx.tip = second.request.ctx.tip ∧
        first.request.ctx.specVersion = second.request.ctx.specVersion ∧
        first.request.ctx.transactionVersion = second.request.ctx.transactionVersion ∧
        first.request.ctx.genesisHash = second.request.ctx.genesisHash) ∧
    (∀ (first second : Signing crates) (left right : TransferParams),
      requestTransfer first.request = some left → requestTransfer second.request = some right →
      NoCollision first.request second.request →
      first.record.message = second.record.message → SameTransfer left right) ∧
    (∀ (first second : Signing crates) (raw long : List UInt8),
      requestPayload first.request = .ok raw → requestPayload second.request = .ok long →
      raw.length ≤ 256 → 256 < long.length →
      first.record.message ≠ second.record.message) :=
  ⟨range_encodeCall_isPrefixFree,
    fun _ prefixFree _ _ firstMem secondMem noCollision equal =>
      Signing.eq_of_message_eq prefixFree firstMem secondMem noCollision equal,
    fun _ _ _ _ firstTransfer secondTransfer noCollision equal =>
      Signing.sameTransfer_of_message_eq firstTransfer secondTransfer noCollision equal,
    fun _ _ _ _ rawPayload longPayload raw_le lt_long =>
      Signing.message_ne_of_le_of_gt rawPayload longPayload raw_le lt_long⟩

end Messages

end Runtime

namespace Reference

open Ext QuantusWasm.Runtime

/-- An asset transfer, with either value of the flag that assets ignore. -/
def assetTransfer (keepAlive : Bool) : TransferParams where
  recipient := foreignAccount
  amount := 5
  assetId := some 7
  keepAlive := keepAlive
  ctx := context

/-- A request for such a transfer. -/
def assetRequest (keepAlive : Bool) : Request crates :=
  .signTransferWithKeypair (keypair .mlDsa87) (assetTransfer keepAlive)

theorem exists_signing (keepAlive : Bool) :
    ∃ signing : Signing crates, signing.request = assetRequest keepAlive := by
  obtain ⟨output, after, ran⟩ := @exists_run_signCallWithKeypair _ _ _ resolveEra_reference
    (keypair .mlDsa87) (encodeCall (assetTransfer keepAlive)) Host.initial (by decide)
  obtain ⟨_, _, _, _, _, _, _, _, after_eq⟩ := exists_assembled_of_signCall ran
  exact ⟨⟨assetRequest keepAlive, _, after, _, _, ran, congrArg Host.signatures after_eq⟩, rfl⟩

theorem message_assetRequest {keepAlive : Bool} {signing : Signing crates}
    (request_eq : signing.request = assetRequest keepAlive) :
    signing.record.message =
      (assetRequest true).message (Window.around 64 100).toEra context.blockHash := by
  obtain ⟨era, checkpoint, resolved, message_eq⟩ := signing.exists_resolved
  rw [request_eq] at resolved message_eq
  cases resolveEra_reference.symm.trans resolved
  exact message_eq

/-- Two requests with one message ask for the same transfer. -/
theorem signature_authorises_one_transaction_assets :
    ∃ first second : Signing crates, first.request = assetRequest true ∧
      second.request = assetRequest false ∧ first.record.message = second.record.message ∧
      SameTransfer (assetTransfer true) (assetTransfer false) := by
  obtain ⟨first, first_eq⟩ := exists_signing true
  obtain ⟨second, second_eq⟩ := exists_signing false
  have messages := (message_assetRequest first_eq).trans (message_assetRequest second_eq).symm
  have noCollision : NoCollision first.request second.request := by
    intro left right leftPayload rightPayload _
    rw [first_eq] at leftPayload
    rw [second_eq] at rightPayload
    exact Except.ok.inj (leftPayload.symm.trans rightPayload)
  exact ⟨first, second, first_eq, second_eq, messages,
    (signature_authorises_one_transaction crates).2.2.1 first second _ _
      (first_eq ▸ rfl) (second_eq ▸ rfl) noCollision messages⟩

end Reference

end QuantusWasm
