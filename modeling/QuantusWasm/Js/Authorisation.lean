import QuantusWasm.Js.Admission
import QuantusWasm.Js.Api
import QuantusWasm.Runtime.Envelope

/-!
# Nothing is accepted that was not asked for

A process calls the exports in any order, and anyone submits anything.  As long
as no submitted signature under a key of the process is a forgery, every
extrinsic of the account of the key that a runtime accepts is, but for its
signature, one that a call of the process returned.
-/

namespace QuantusWasm

namespace Runtime

open Ext Codec

/-- A signature under the key is no forgery where the runtime checks it: if it
verifies, then according to the log its message was signed. -/
def Verifier.Unforged (verifier : Verifier) {crates : Crates} (keypair : Keypair crates)
    (log : List SignatureRecord) (view : View) (extrinsic : SignedExtrinsic) : Prop :=
  extrinsic.publicKey = keypair.publicKey →
    verifier extrinsic.scheme extrinsic.preamble.signature.2.2
      (signable crates view.chain view.height extrinsic) extrinsic.preamble.signature.2.1
      extrinsicContext = true →
    ∃ record ∈ log, record.scheme = extrinsic.scheme ∧ record.publicKey = extrinsic.publicKey ∧
      record.message = signable crates view.chain view.height extrinsic ∧
      record.signature.isSome = true

section Acceptance

variable {crates : Crates} {verifier : Verifier}

/-- What is accepted names the account of its public key, and its signature
verifies. -/
theorem verifier_of_accepts {view : View} {extrinsic : SignedExtrinsic}
    (accepted : view.accepts crates verifier extrinsic = true) :
    crates.hashBytes extrinsic.publicKey = extrinsic.signer ∧
      verifier extrinsic.scheme extrinsic.preamble.signature.2.2
        (signable crates view.chain view.height extrinsic) extrinsic.preamble.signature.2.1
        extrinsicContext = true := by
  rw [View.accepts, verify, Bool.and_eq_true, Bool.and_eq_true, decide_eq_true_iff] at accepted
  exact accepted.2

/-- What the runtime rebuilds is what a signer on its chain would sign. -/
theorem rebuiltPayload_eq_signingPayload (chain : Chain) (height : Nat)
    (extrinsic : SignedExtrinsic) :
    rebuiltPayload chain height extrinsic =
      signingPayload extrinsic.call
        { chain.context with nonce := extrinsic.nonce, tip := extrinsic.tip } extrinsic.era
        (chain.blockHash (extrinsic.era.birthAt height)) := by
  simp only [rebuiltPayload, signingPayload, extensionsCodec_encode, additionalSigned_eq]
  rfl

/-- A message that was signed and is rebuilt on a chain is over one call and
one set of extensions. -/
theorem eq_of_signedMessage_rebuilt {words : Set (List UInt8)} (prefixFree : IsPrefixFree words)
    {call : List UInt8} (callMem : call ∈ words) {ctx : SignContext} {era : Era}
    {checkpoint : Bytes32} (resolved : resolveEra ctx = .ok (era, checkpoint)) {view : View}
    {extrinsic : SignedExtrinsic} (known : extrinsic.call ∈ words)
    (noCollision : NoRebuiltCollision crates call ctx view extrinsic)
    (messages : signedMessage crates (signingPayload call ctx era checkpoint) =
      signable crates view.chain view.height extrinsic) :
    call = extrinsic.call ∧ era = extrinsic.era ∧ ctx.nonce = extrinsic.nonce ∧
      ctx.tip = extrinsic.tip := by
  rw [signable_eq] at messages
  have own := lt_length_signingPayload call ctx era checkpoint
  have rebuilt : 32 < (rebuiltPayload view.chain view.height extrinsic).length := by
    rw [rebuiltPayload_eq_signingPayload]
    exact lt_length_signingPayload _ _ _ _
  have payloads : signingPayload call ctx era checkpoint =
      rebuiltPayload view.chain view.height extrinsic := by
    by_cases long : payloadHashThreshold < (signingPayload call ctx era checkpoint).length
    · exact signedMessage_inj own rebuilt (noCollision era checkpoint resolved long) messages
    · have short := Nat.not_lt.mp long
      by_cases rebuiltLong : payloadHashThreshold <
          (rebuiltPayload view.chain view.height extrinsic).length
      · exact absurd messages (signedMessage_ne_of_le_of_gt own short rebuiltLong)
      · rwa [signedMessage_of_le short, signedMessage_of_le (Nat.not_lt.mp rebuiltLong)]
          at messages
  rw [rebuiltPayload_eq_signingPayload] at payloads
  obtain ⟨calls, eras, nonces, tips, _⟩ := signingPayload_inj prefixFree callMem known
    (wellFormed_of_resolveEra resolved) extrinsic.preamble.extensions.era.2 payloads
  exact ⟨calls, eras, nonces, tips⟩

end Acceptance

end Runtime

namespace Js

open Ecma Effect Ext Codec QuantusWasm.Runtime

section Calls

variable {crates : Crates} {bip39 : MnemonicToSeed}

/-- Only signing calls return extrinsics. -/
theorem eq_of_mem_returned {event : Event ApiCall Host Thrown ApiResult}
    {asked : SigningCall × List UInt8} (mem : asked ∈ returned event) :
    event.request = .sign asked.1 ∧ event.result = .ok (.extrinsic asked.2) := by
  rcases event with ⟨request, before, result, after⟩
  unfold returned at mem
  split at mem
  · rename_i call _ output _ same
    cases same
    rw [List.mem_singleton.mp mem]
    exact ⟨rfl, rfl⟩
  · exact absurd mem List.not_mem_nil

/-- Every signature in the log of a run was made for an extrinsic that a call of
the run returned. -/
theorem exists_event_of_logged {calls : List ApiCall} {start : Host} (fresh : start.signatures = [])
    {record : SignatureRecord}
    (mem : record ∈ (finish (ApiCall.serve crates bip39) calls start).signatures)
    (signed : record.signature.isSome = true) :
    ∃ event ∈ trace (ApiCall.serve crates bip39) calls start, ∃ call output extrinsic,
      event.request = .sign call ∧ event.result = .ok (.extrinsic output) ∧
      ReadsAs output extrinsic ∧ Authorises crates call record extrinsic := by
  obtain ⟨pieces, each, appended⟩ := exists_accounted_finish crates bip39 calls start
  rw [Appends, fresh, List.nil_append] at appended
  rw [appended] at mem
  rcases List.mem_flatten.mp mem with ⟨piece, pieceMem, recordMem⟩
  obtain ⟨event, eventMem, accounted⟩ := exists_of_forall₂_of_mem each.flip pieceMem
  have madeMem : record ∈ made piece := List.mem_filter.mpr ⟨recordMem, signed⟩
  obtain ⟨asked, askedMem, extrinsic, reads, authorises⟩ :=
    exists_of_forall₂_of_mem accounted.each madeMem
  obtain ⟨request_eq, result_eq⟩ := eq_of_mem_returned askedMem
  exact ⟨event, eventMem, asked.1, asked.2, extrinsic, request_eq, result_eq, reads, authorises⟩

/-- Whatever anyone submits: as long as its signature is no forgery under a key,
what a runtime accepts from the account of the key is what a call of the process
returned, but for the signature. -/
theorem accepted_only_if_returned {verifier : Verifier} {keypair : Keypair crates}
    {calls : List ApiCall} {start : Host} (fresh : start.signatures = []) {view : View}
    {submitted : SignedExtrinsic} (accepted : view.accepts crates verifier submitted = true)
    (signer : submitted.signer = accountIdFromPublic crates keypair.publicKey)
    (owner : crates.hashBytes submitted.publicKey = crates.hashBytes keypair.publicKey →
      submitted.publicKey = keypair.publicKey)
    (unforged : verifier.Unforged keypair
      (finish (ApiCall.serve crates bip39) calls start).signatures view submitted)
    {words : Set (List UInt8)} (prefixFree : IsPrefixFree words)
    (asked : ∀ call bytes ctx, .sign call ∈ calls → call.Builds crates bytes ctx → bytes ∈ words)
    (known : submitted.call ∈ words)
    (noCollision : ∀ call bytes ctx, .sign call ∈ calls → call.Builds crates bytes ctx →
      NoRebuiltCollision crates bytes ctx view submitted) :
    ∃ event ∈ trace (ApiCall.serve crates bip39) calls start, ∃ call output extrinsic,
      event.request = .sign call ∧ event.result = .ok (.extrinsic output) ∧
      ReadsAs output extrinsic ∧ SameButSignature extrinsic submitted := by
  obtain ⟨account, verified⟩ := verifier_of_accepts accepted
  have owned := owner (account.trans signer)
  obtain ⟨record, mem, scheme, publicKey, message, signed⟩ := unforged owned verified
  obtain ⟨event, eventMem, call, output, extrinsic, request_eq, result_eq, reads, authorises⟩ :=
    exists_event_of_logged fresh mem signed
  rcases authorises.message with
    ⟨ctx, checkpoint, builds, resolved, nonce_eq, tip_eq, message_eq⟩
  have requested : .sign call ∈ calls := request_eq ▸ request_mem_of_mem_trace eventMem
  obtain ⟨calls_eq, eras, nonces, tips⟩ := eq_of_signedMessage_rebuilt prefixFree
    (asked call _ ctx requested builds) resolved known (noCollision call _ ctx requested builds)
    (message_eq.symm.trans message)
  have keys : extrinsic.publicKey = submitted.publicKey :=
    authorises.publicKey_eq.symm.trans publicKey
  refine ⟨event, eventMem, call, output, extrinsic, request_eq, result_eq, reads, ?_,
    authorises.scheme_eq.symm.trans scheme, keys, eras, nonce_eq.trans nonces,
    tip_eq.trans tips, calls_eq⟩
  rw [authorises.signer_eq, keys]
  exact account

end Calls

end Js

namespace Reference

open Ecma Effect Ext Js Codec QuantusWasm.Runtime

/-- A process signs one call, and a runtime accepts what it returned. -/
theorem accepted_only_if_returned_mortalCall :
    ∃ output after submitted,
      (mortalCall.serve crates).run Host.initial = (.ok output, after) ∧
      decodeExtrinsic output = some submitted ∧
      (viewAt 163).accepts crates verifier submitted = true ∧
      ∃ event ∈ trace (ApiCall.serve crates fun _ _ => .error "") [.sign mortalCall] Host.initial,
        ∃ call output extrinsic, event.request = .sign call ∧
          event.result = .ok (.extrinsic output) ∧ ReadsAs output extrinsic ∧
          SameButSignature extrinsic submitted := by
  obtain ⟨output, after, ran⟩ := exists_run_mortalCall
  obtain ⟨execution⟩ := SigningCall.run_serve_eq_ok_iff.mp ran
  obtain ⟨bytes_eq, ctx_eq⟩ := eq_of_builds_mortalCall execution.builds_call
  obtain ⟨draw, era, checkpoint, signature, _, resolved, made, output_eq, after_eq⟩ :=
    exists_assembled_of_signCall execution.signed
  have decoded := decodeExtrinsic_encodeExtrinsic output_eq (length_mortalCall ran)
  obtain ⟨binds, noCollision⟩ :=
    separates_mortalCall ran decoded (viewAt 163) _ _ execution.builds_call
  have accepted := (execution.accepts_iff readsSafeIntegers readsWords verifier_correct decoded
    binds noCollision).mpr describedBy_mortalCall
  have served : ((ApiCall.sign mortalCall).serve crates fun _ _ => .error "").run Host.initial =
      (.ok (.extrinsic output), after) :=
    Action.run_bind_of_ok ran _
  have finished : finish (ApiCall.serve crates fun _ _ => .error "") [.sign mortalCall]
      Host.initial = after :=
    congrArg Prod.snd served
  refine ⟨output, after, _, ran, decoded, accepted, ?_⟩
  refine @accepted_only_if_returned crates (fun _ _ => .error "") verifier execution.keypair
    [.sign mortalCall] Host.initial rfl _ _ accepted rfl (fun _ => rfl) ?_ {[2, 3]}
    (by rintro left rfl right rfl _; rfl) ?_ bytes_eq ?_
  · intro _ verified
    rw [finished, congrArg Host.signatures after_eq]
    refine ⟨_, List.mem_append_right _ (List.mem_singleton_self _), rfl, rfl,
      (binds _ _ resolved verified).symm, ?_⟩
    exact (congrArg Option.isSome (congrArg (Option.map List.Vector.toList) made)).trans rfl
  · intro call bytes ctx mem builds
    obtain rfl := ApiCall.sign.inj (List.mem_singleton.mp mem)
    exact (eq_of_builds_mortalCall builds).1
  · intro call bytes ctx mem builds
    obtain rfl := ApiCall.sign.inj (List.mem_singleton.mp mem)
    exact (separates_mortalCall ran decoded _ _ _ builds).2

end Reference

end QuantusWasm
