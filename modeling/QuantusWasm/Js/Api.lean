import QuantusWasm.Js.Pipeline
import QuantusWasm.Js.Equivalence
import QuantusWasm.Effect.Log
import QuantusWasm.Runtime.Payload

/-!
# The exported functions together

A process calls the exports of `js/index.ts` in any order, and calls that throw
among them.  Over every such run the signatures made are those of the
extrinsics returned, each hedged with a draw of its own.
-/

namespace QuantusWasm

open Ecma Effect Ext

/-- The BIP39 seed of a mnemonic and a passphrase, from outside. -/
abbrev MnemonicToSeed :=
  List Char → Option (List Char) → Except String (List.Vector UInt8 64)

/-- The entry point of that name. -/
def Wasm.mnemonicToSeedJs (bip39 : MnemonicToSeed) (mnemonic : List Char)
    (passphrase : Option (List Char)) : Except Thrown (List UInt8) := do
  let seed ← (bip39 mnemonic passphrase).mapError fun reason =>
    .jsError ("mnemonic_to_seed failed: " ++ reason)
  pure seed.toList

namespace Js

/-- The 64-byte BIP39 seed of a mnemonic. -/
def mnemonicToSeed (bip39 : MnemonicToSeed) (mnemonic : Text)
    (passphrase : Option Text) : Except Thrown (List UInt8) :=
  Wasm.mnemonicToSeedJs bip39 mnemonic.toScalars (passphrase.map Text.toScalars)

/-- A call of an exported function. -/
inductive ApiCall where
  | account (seed : Value) (opts : AccountOptions)
  | accountFromMnemonic (mnemonic : Text) (opts : MnemonicOptions)
  | mnemonicToSeed (mnemonic : Text) (passphrase : Option Text)
  | sign (call : SigningCall)

/-- What an exported function returns. -/
inductive ApiResult where
  | account (account : QuantusAccount)
  | seed (seed : List UInt8)
  | extrinsic (output : List UInt8)

namespace ApiCall

/-- The exported function that a call names. -/
def serve (crates : Crates) (bip39 : MnemonicToSeed) :
    ApiCall → Action Host Thrown ApiResult
  | account seed opts => do
      let account ← Action.ofExcept (Js.account crates seed opts)
      pure (.account account)
  | accountFromMnemonic mnemonic opts => do
      let account ← Js.accountFromMnemonic crates mnemonic opts
      pure (.account account)
  | mnemonicToSeed mnemonic passphrase => do
      let seed ← Action.ofExcept (Js.mnemonicToSeed bip39 mnemonic passphrase)
      pure (.seed seed)
  | sign call => do
      let output ← call.serve crates
      pure (.extrinsic output)

/-- How many draws a call may make. -/
def maxDraws : ApiCall → Nat
  | sign _ => 1
  | account _ _ | accountFromMnemonic _ _ | mnemonicToSeed _ _ => 0

end ApiCall

/-! ## One call -/

/-- A record was made for an extrinsic that a call asked for: under the key of
the call, over the message of what the call asked for, and the extrinsic holds
its signature. -/
structure Authorises (crates : Crates) (call : SigningCall) (record : SignatureRecord)
    (extrinsic : Runtime.SignedExtrinsic) : Prop where
  keyed : ∃ scheme, ∃ keypair : Keypair crates,
    Wasm.parseScheme ((call.source.schemeName call.content.params).map Text.toScalars) =
      .ok scheme ∧
    call.source.keypair crates call.content.params scheme = .ok keypair ∧
    record.scheme = keypair.scheme ∧ record.publicKey = keypair.publicKey
  scheme_eq : record.scheme = extrinsic.scheme
  publicKey_eq : record.publicKey = extrinsic.publicKey
  signer_eq : extrinsic.signer = accountIdFromPublic crates extrinsic.publicKey
  signature_eq : record.signature = some extrinsic.signature
  message : ∃ ctx checkpoint, call.Builds crates extrinsic.call ctx ∧
    resolveEra ctx = .ok (extrinsic.era, checkpoint) ∧ extrinsic.nonce = ctx.nonce ∧
    extrinsic.tip = ctx.tip ∧
    record.message =
      signedMessage crates (signingPayload extrinsic.call ctx extrinsic.era checkpoint)

/-- A signature was made under the signing context, over a short message and
with the randomness of this draw. -/
def HedgedBy (crates : Crates) (draw : Nat) (record : SignatureRecord) : Prop :=
  ∃ hedge, crates.getrandom draw = some hedge ∧ record.hedge = some hedge ∧
    record.context = some signingContext ∧ record.message.length ≤ payloadHashThreshold

/-- Signatures are hedged one by one. -/
abbrev HedgesEach (crates : Crates) : Host → Host → Prop :=
  Stamped Host.signatures Host.draws (HedgedBy crates)

section Call

variable {crates : Crates} {bip39 : MnemonicToSeed}

theorem hedgesEach_signCallWithKeypair (keypair : Keypair crates) (bytes : List UInt8)
    (ctx : SignContext) : (signCallWithKeypair keypair bytes ctx).Steps (HedgesEach crates) := by
  intro before
  rcases ran : (signCallWithKeypair keypair bytes ctx).run before with ⟨result, after⟩
  cases (Request.signCallWithKeypair keypair bytes ctx).served_of_run ran with
  | unkeyed found => contradiction
  | undrawn found drawn => exact Stamped.quiet rfl (Nat.le_succ _)
  | unresolved found drawn refused => exact Stamped.quiet rfl (Nat.le_succ _)
  | unsigned found drawn resolved refused =>
      exact Stamped.tick rfl rfl ⟨_, drawn, rfl, rfl, Runtime.length_signedMessage_le _⟩
  | signed found drawn resolved made =>
      exact Stamped.tick rfl rfl ⟨_, drawn, rfl, rfl, Runtime.length_signedMessage_le _⟩

theorem hedgesEach_signingCall (call : SigningCall) :
    (call.serve crates).Steps (HedgesEach crates) := by
  apply SigningCall.serve_steps
  · exact fun host => Stamped.quiet (signatures_noted _ host) (draws_noted _ host).ge
  · exact fun host scheme _ =>
      Stamped.quiet (signatures_derive _ _ _ host) (draws_derive _ _ _ host).ge
  · exact fun keypair bytes ctx _ => hedgesEach_signCallWithKeypair keypair bytes ctx

/-- Deriving an account leaves at most the trace of the derivation. -/
theorem after_accountFromMnemonic (mnemonic : Text) (opts : MnemonicOptions) (before : Host) :
    ((accountFromMnemonic crates mnemonic opts).run before).2 = before ∨
      ∃ record, ((accountFromMnemonic crates mnemonic opts).run before).2 =
        before.derived record := by
  simp only [accountFromMnemonic, Wasm.accountFromMnemonic, Wasm.keypairFromMnemonic,
    Action.run_bind, Action.run_ofExcept, Action.run_update]
  cases Wasm.parseScheme (opts.scheme.map Text.toScalars) with
  | error thrown => exact .inl rfl
  | ok scheme =>
      right
      dsimp only
      cases crates.deriveKeyFromMnemonic scheme mnemonic.toScalars
        (opts.passphrase.map Text.toScalars) (Wasm.quantusPath (indices opts opts.scheme).1
          (indices opts opts.scheme).2.1 (indices opts opts.scheme).2.2) with
      | error reason => exact ⟨_, rfl⟩
      | ok key => exact ⟨_, rfl⟩

theorem hedgesEach_accountFromMnemonic (mnemonic : Text) (opts : MnemonicOptions) :
    (accountFromMnemonic crates mnemonic opts).Steps (HedgesEach crates) := by
  intro before
  rcases @after_accountFromMnemonic crates mnemonic opts before with same | ⟨record, same⟩
  · rw [same]
    exact Std.Refl.refl before
  · rw [same]
    exact Stamped.quiet rfl le_rfl

theorem ApiCall.hedgesEach (call : ApiCall) :
    (call.serve crates bip39).Steps (HedgesEach crates) := by
  cases call with
  | account seed opts => exact Action.Steps.ofExcept_bind fun _ _ => Action.Steps.pure _
  | accountFromMnemonic mnemonic opts =>
      exact Action.Steps.bind (hedgesEach_accountFromMnemonic mnemonic opts) fun _ =>
        Action.Steps.pure _
  | mnemonicToSeed mnemonic passphrase =>
      exact Action.Steps.ofExcept_bind fun _ _ => Action.Steps.pure _
  | sign call =>
      exact Action.Steps.bind (hedgesEach_signingCall call) fun _ => Action.Steps.pure _

/-- The extrinsic that an event returned, if any, with the call that asked for
it. -/
def returned : Event ApiCall Host Thrown ApiResult → List (SigningCall × List UInt8)
  | ⟨.sign call, _, .ok (.extrinsic output), _⟩ => [(call, output)]
  | _ => []

/-- The signatures that were made. -/
def made (records : List SignatureRecord) : List SignatureRecord :=
  records.filter fun record => record.signature.isSome

/-- An event logged these records, and the signatures that were made are those of
the extrinsic it returned. -/
structure Accounted (crates : Crates) (event : Event ApiCall Host Thrown ApiResult)
    (records : List SignatureRecord) : Prop where
  appended : Appends Host.signatures records event.before event.after
  each : List.Forall₂ (fun record asked => ∃ extrinsic, Runtime.ReadsAs asked.2 extrinsic ∧
    Authorises crates asked.1 record extrinsic) (made records) (returned event)

/-- What returns no extrinsic and leaves the log alone is accounted for. -/
theorem Accounted.quiet {event : Event ApiCall Host Thrown ApiResult}
    (signsNothing : SignsNothing event.before event.after) (unreturned : returned event = []) :
    Accounted crates event [] := by
  refine ⟨signsNothing.trans (List.append_nil _).symm, ?_⟩
  rw [unreturned]
  exact .nil

/-- A record of a request that was served for a call authorises what it
assembled. -/
theorem authorises_assembled {call : SigningCall} {bytes : List UInt8} {ctx : SignContext}
    {scheme : Scheme} {keypair : Keypair crates}
    (built : call.build crates = .ok (bytes, ctx, scheme))
    (keyed : call.source.keypair crates call.content.params scheme = .ok keypair)
    {era : Era} {checkpoint : Bytes32} (resolved : resolveEra ctx = .ok (era, checkpoint))
    {hedge : Option Bytes32} {signature : List.Vector UInt8 keypair.scheme.signBytes}
    (signed : keypair.rawSign (signedMessage crates (signingPayload bytes ctx era checkpoint))
      hedge = some signature.toList) :
    Authorises crates call
      (keypair.record (signedMessage crates (signingPayload bytes ctx era checkpoint)) hedge)
      (Runtime.assembled keypair signature ⟨era, wellFormed_of_resolveEra resolved⟩ ctx bytes) := by
  obtain ⟨object, js, encoded, delivered, context, content⟩ := SigningCall.build_eq_ok_iff.mp built
  exact {
    keyed := ⟨scheme, keypair, KeySource.parseScheme_of_built encoded delivered context, keyed,
      rfl, rfl⟩
    scheme_eq := rfl
    publicKey_eq := rfl
    signer_eq := rfl
    signature_eq := signed
    message := ⟨ctx, checkpoint, ⟨object, js, scheme, encoded, delivered, context, content⟩,
      resolved, rfl, rfl, rfl⟩ }

theorem exists_accounted_signingCall {call : SigningCall} {before after : Host}
    {result : Except Thrown (List UInt8)}
    (ran : (call.serve crates).run before = (result, after)) :
    ∃ records, Accounted crates ⟨.sign call, before, result.map .extrinsic, after⟩ records := by
  cases SigningCall.outcome_of_run ran with
  | unchecked refused => exact ⟨[], .quiet rfl rfl⟩
  | unbuilt keyPassed passed refused => exact ⟨[], .quiet (signatures_noted _ before) rfl⟩
  | unkeyed passed built refused => exact ⟨[], .quiet (call.signatures_prepared _ before) rfl⟩
  | @served bytes ctx scheme keypair _ _ built keyed served =>
      cases served with
      | unkeyed found => contradiction
      | undrawn found drawn => exact ⟨[], .quiet (call.signatures_prepared _ before) rfl⟩
      | unresolved found drawn refused =>
          exact ⟨[], .quiet (call.signatures_prepared _ before) rfl⟩
      | @unsigned signer hedge era checkpoint found drawn resolved refused =>
          refine ⟨[_], congrArg (· ++ [_]) (call.signatures_prepared scheme before), ?_⟩
          have unmade : made [signer.record ((Request.signCallWithKeypair keypair bytes ctx).message
              era checkpoint) (some hedge)] = [] := by
            simp [made, Keypair.record, refused]
          rw [unmade]
          exact .nil
      | @signed signer hedge era checkpoint signature found drawn resolved signed =>
          refine ⟨[_], congrArg (· ++ [_]) (call.signatures_prepared scheme before), ?_⟩
          have kept : made [signer.record ((Request.signCallWithKeypair keypair bytes ctx).message
              era checkpoint) (some hedge)] = [signer.record
                ((Request.signCallWithKeypair keypair bytes ctx).message era checkpoint)
                (some hedge)] := by
            simp [made, Keypair.record, signed]
          rw [kept]
          cases found
          rcases Option.map_eq_some_iff.mp signed with ⟨content, _, rfl⟩
          refine .cons ⟨_, ?_, authorises_assembled built keyed resolved signed⟩ .nil
          have reads := Runtime.readsAs_encodeExtrinsic (Runtime.assembled keypair content
            ⟨era, wellFormed_of_resolveEra resolved⟩ ctx bytes)
          rw [Runtime.encodeExtrinsic, Runtime.body_assembled] at reads
          exact reads

theorem ApiCall.exists_accounted (call : ApiCall) (before : Host) :
    ∃ records, Accounted crates ⟨call, before, ((call.serve crates bip39).run before).1,
      ((call.serve crates bip39).run before).2⟩ records := by
  cases call with
  | account seed opts =>
      refine ⟨[], .quiet ?_ rfl⟩
      simp only [serve, Action.run_bind, Action.run_ofExcept]
      cases Js.account crates seed opts <;> rfl
  | accountFromMnemonic mnemonic opts =>
      refine ⟨[], .quiet ?_ rfl⟩
      have left := @after_accountFromMnemonic crates mnemonic opts before
      simp only [serve, Action.run_bind]
      rcases ran : (Js.accountFromMnemonic crates mnemonic opts).run before with ⟨result, after⟩
      rw [ran] at left
      have quiet : SignsNothing before after := by
        rcases left with rfl | ⟨record, rfl⟩ <;> rfl
      cases result <;> exact quiet
  | mnemonicToSeed mnemonic passphrase =>
      refine ⟨[], .quiet ?_ rfl⟩
      simp only [serve, Action.run_bind, Action.run_ofExcept]
      cases Js.mnemonicToSeed bip39 mnemonic passphrase <;> rfl
  | sign call =>
      simp only [serve, Action.run_bind]
      rcases ran : (call.serve crates).run before with ⟨result, after⟩
      have accounted := exists_accounted_signingCall ran
      cases result <;> exact accounted

/-! ## Runs -/

theorem draws_le_signingCall (call : SigningCall) (before : Host) :
    ((call.serve crates).run before).2.draws ≤ before.draws + 1 := by
  have prepared_le (scheme : Scheme) : (call.prepared scheme before).draws ≤ before.draws :=
    (call.draws_prepared scheme before).le
  rcases ran : (call.serve crates).run before with ⟨result, after⟩
  cases SigningCall.outcome_of_run ran with
  | unchecked refused => exact Nat.le_succ _
  | unbuilt keyPassed passed refused => exact (draws_noted _ before).le.trans (Nat.le_succ _)
  | unkeyed passed built refused => exact (prepared_le _).trans (Nat.le_succ _)
  | served built keyed served =>
      cases served with
      | unkeyed found => exact (prepared_le _).trans (Nat.le_succ _)
      | undrawn found drawn => exact Nat.succ_le_succ (prepared_le _)
      | unresolved found drawn refused => exact Nat.succ_le_succ (prepared_le _)
      | unsigned found drawn resolved refused => exact Nat.succ_le_succ (prepared_le _)
      | signed found drawn resolved made => exact Nat.succ_le_succ (prepared_le _)

theorem ApiCall.draws_le (call : ApiCall) (before : Host) :
    ((call.serve crates bip39).run before).2.draws ≤ before.draws + call.maxDraws := by
  cases call with
  | account seed opts =>
      simp only [serve, Action.run_bind, Action.run_ofExcept]
      cases Js.account crates seed opts <;> exact le_rfl
  | accountFromMnemonic mnemonic opts =>
      have left := @after_accountFromMnemonic crates mnemonic opts before
      simp only [serve, Action.run_bind]
      rcases ran : (Js.accountFromMnemonic crates mnemonic opts).run before with ⟨result, after⟩
      rw [ran] at left
      have kept : after.draws ≤ before.draws := by
        rcases left with rfl | ⟨record, rfl⟩ <;> exact le_rfl
      cases result <;> exact kept
  | mnemonicToSeed mnemonic passphrase =>
      simp only [serve, Action.run_bind, Action.run_ofExcept]
      cases Js.mnemonicToSeed bip39 mnemonic passphrase <;> exact le_rfl
  | sign call =>
      have drawn_le := @draws_le_signingCall crates call before
      simp only [serve, Action.run_bind]
      rcases ran : (call.serve crates).run before with ⟨result, after⟩
      rw [ran] at drawn_le
      cases result <;> exact drawn_le

/-- A run logs what its calls log, each call accounting for its own. -/
theorem exists_accounted_finish (crates : Crates) (bip39 : MnemonicToSeed) (calls : List ApiCall)
    (start : Host) :
    ∃ pieces : List (List SignatureRecord),
      List.Forall₂ (Accounted crates) (trace (ApiCall.serve crates bip39) calls start) pieces ∧
      Appends Host.signatures pieces.flatten start
        (finish (ApiCall.serve crates bip39) calls start) := by
  apply exists_appends_finish
  intro call before
  obtain ⟨records, accounted⟩ := call.exists_accounted before
  exact ⟨records, accounted.appended, accounted⟩

/-- Over every run of the exported functions, each call logs the records of its
own: the signatures made are exactly those of the extrinsics returned, each made
under the key of the call that returned it and over what that call asked for.
Each signature attempted is hedged with a draw of its own, later ones with later
draws, and nothing else is drawn for than signing. -/
theorem signatures_accounted (crates : Crates) (bip39 : MnemonicToSeed) (calls : List ApiCall)
    (start : Host) :
    ∃ (pieces : List (List SignatureRecord)) (draws : List Nat),
      List.Forall₂ (Accounted crates) (trace (ApiCall.serve crates bip39) calls start) pieces ∧
      (finish (ApiCall.serve crates bip39) calls start).signatures =
        start.signatures ++ pieces.flatten ∧
      List.Forall₂ (HedgedBy crates) draws pieces.flatten ∧ draws.Pairwise (· < ·) ∧
      (∀ draw ∈ draws, start.draws ≤ draw ∧
        draw < (finish (ApiCall.serve crates bip39) calls start).draws) ∧
      (finish (ApiCall.serve crates bip39) calls start).draws ≤
        start.draws + (calls.map ApiCall.maxDraws).sum := by
  obtain ⟨pieces, each, appended⟩ := exists_accounted_finish crates bip39 calls start
  obtain ⟨draws, records, stamped, ticks⟩ :=
    relation_finish (@ApiCall.hedgesEach crates bip39) calls start
  obtain rfl : records = pieces.flatten := stamped.unique appended
  exact ⟨pieces, draws, each, appended, ticks.each, ticks.sorted, ticks.between,
    clock_finish_le (fun call before => call.draws_le before) calls start⟩

end Call

end Js

end QuantusWasm
