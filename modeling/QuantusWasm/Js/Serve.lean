import QuantusWasm.Js.Context
import QuantusWasm.Runtime.RoundTrip

/-!
# What serving a signing call does

A call that returns yields the extrinsic of the context and the call bytes its
stages built, and signs the message of both.  Whether it returns or not, it
moves the state only by noting the period, by deriving a key and by signing
what its stages built, so a relation that these respect holds across the call.
-/

namespace QuantusWasm.Js

open Ecma Effect Ext

variable {crates : Crates}

/-! ## The extrinsic -/

theorem signatures_noted (period : Value) (host : Host) :
    (noted period host).signatures = host.signatures := by
  unfold noted
  split_ifs <;> rfl

theorem signatures_derive (source : KeySource) (params : CallParams) (scheme : Scheme)
    (host : Host) : (source.derive params scheme host).signatures = host.signatures := by
  cases source <;> rfl

/-- The output holds the context and the call, and one message was signed, that
of both. -/
structure Carries (crates : Crates) (ctx : SignContext) (bytes : List UInt8) (before : Host)
    (output : List UInt8) (after : Host) (extrinsic : Runtime.SignedExtrinsic) : Prop where
  reads : Runtime.ReadsAs output extrinsic
  era_eq : extrinsic.era = .ofCounters ctx.period ctx.blockNumber
  nonce_eq : extrinsic.nonce = ctx.nonce
  tip_eq : extrinsic.tip = ctx.tip
  call_eq : extrinsic.call = bytes
  signs : ∃ checkpoint record, resolveEra ctx = .ok (extrinsic.era, checkpoint) ∧
    after.signatures = before.signatures ++ [record] ∧
    record.message =
      signedMessage crates (signingPayload bytes ctx extrinsic.era checkpoint)

theorem SigningCall.Execution.exists_carries {call : SigningCall} {before after : Host}
    {output : List UInt8} (execution : Execution crates call before output after) :
    ∃ extrinsic, Carries crates execution.ctx execution.bytes before output after extrinsic := by
  obtain ⟨draw, era, checkpoint, signature, resolved, _, reads, after_eq⟩ :=
    Runtime.exists_readsAs_of_signCall execution.signed
  have kept := signatures_derive call.source call.content.params execution.scheme
    (noted call.content.params.period before)
  rw [signatures_noted] at kept
  exact ⟨_, reads, era_eq_ofCounters resolved, rfl, rfl, rfl, checkpoint, _, resolved,
    (congrArg Host.signatures after_eq).trans (congrArg (· ++ _) kept), rfl⟩

/-! ## The state -/

theorem encodeContext_steps {relation : Host → Host → Prop} {params : CallParams}
    (notes : ∀ host, relation host (noted params.period host)) (scheme : Option Text) :
    (encodeContext params scheme).Steps relation := by
  intro before
  rw [run_encodeContext]
  exact notes before

section Steps

variable {relation : Host → Host → Prop} [Std.Refl relation] [IsTrans Host relation]

theorem encodeTransfer_steps {params : TransferParams}
    (notes : ∀ host, relation host (noted params.period host)) (scheme : Option Text) :
    (encodeTransfer params scheme).Steps relation := by
  unfold encodeTransfer
  split
  · exact Action.Steps.ofExcept_bind fun _ _ => Action.Steps.ofExcept_bind fun _ _ =>
      Action.Steps.bind (encodeContext_steps notes _) fun _ => Action.Steps.pure _
  · exact Action.Steps.throw _

/-- Derivation in Rust adds one record, at the indices it was given. -/
theorem keypairFromMnemonic_steps {mnemonic : List Char} {passphrase : Option (List Char)}
    {account change addressIndex : UInt32} {scheme : Scheme}
    (derives : ∀ host : Host, relation host (host.derived
      ⟨scheme, mnemonic, passphrase, Wasm.quantusPath account change addressIndex⟩)) :
    (Wasm.keypairFromMnemonic crates mnemonic passphrase account change addressIndex
      scheme).Steps relation := by
  refine Action.Steps.bind ?_ fun _ => Action.Steps.ofExcept_bind fun key _ => Action.Steps.pure _
  exact derives

namespace SigningCall

/-- The stages of a call build these bytes and this context. -/
def Builds (crates : Crates) (call : SigningCall) (bytes : List UInt8) (ctx : SignContext) :
    Prop :=
  ∃ object js scheme,
    contextObject call.content.params (call.source.schemeArgument call.content.params) =
      .ok object ∧
    Wasm.deserializeContext crates call.content.route object = .ok js ∧
    Wasm.buildSignContext js = .ok (ctx, scheme) ∧
    call.content.Encodes crates ctx bytes

/-- The stages that a transfer built by the bindings has passed. -/
private theorem stages_transfer {source : KeySource} {params : TransferParams}
    {object : Wasm.TransferObject} {transfer : Ext.TransferParams} {scheme : Scheme}
    {before after : Host}
    (encoded : (encodeTransfer params (source.schemeArgument params.toCallParams)).run before =
      (.ok object, after))
    (whole : Wasm.buildTransferParams crates object = .ok (transfer, scheme)) :
    ∃ js, contextObject params.toCallParams (source.schemeArgument params.toCallParams) =
        .ok object.ctx ∧
      Wasm.deserializeContext crates .flattened object.ctx = .ok js ∧
      Wasm.buildSignContext js = .ok (transfer.ctx, scheme) ∧
      (Content.transfer params).Encodes crates transfer.ctx (encodeCall transfer) := by
  obtain ⟨_, _, _, _, keepAlive_eq, recipientGiven, amountGiven, objectEncoded, rfl, _⟩ :=
    run_encodeTransfer_eq_ok_iff.mp encoded
  obtain ⟨_, js, _, _, _, assetGiven, delivered, built, recipientParsed, amountParsed, rfl⟩ :=
    Wasm.buildTransferParams_eq_ok_iff.mp whole
  exact ⟨js, objectEncoded, delivered, built, .transfer keepAlive_eq recipientGiven
    recipientParsed amountGiven amountParsed assetGiven⟩

private theorem stages_call {source : KeySource} {params : CallParams}
    {object : Wasm.ContextObject} {ctx : SignContext} {scheme : Scheme} {before after : Host}
    (encoded : (encodeContext params (source.schemeArgument params)).run before =
      (.ok object, after))
    (whole : Wasm.buildSignContextFromValue crates object = .ok (ctx, scheme)) :
    ∃ js, contextObject params (source.schemeArgument params) = .ok object ∧
      Wasm.deserializeContext crates .direct object = .ok js ∧
      Wasm.buildSignContext js = .ok (ctx, scheme) := by
  rw [run_encodeContext] at encoded
  obtain ⟨js, delivered, built⟩ := Wasm.buildSignContextFromValue_eq_ok_iff.mp whole
  exact ⟨js, (Prod.mk.inj encoded).1, delivered, built⟩

/-- A relation holds across a call when it holds across noting its period,
deriving its key for the scheme it names and signing what it builds. -/
theorem serve_steps {call : SigningCall}
    (notes : ∀ host, relation host (noted call.content.params.period host))
    (derives : ∀ host scheme,
      Wasm.parseScheme ((call.source.schemeName call.content.params).map Text.toScalars) =
        .ok scheme →
      relation host (call.source.derive call.content.params scheme host))
    (signs : ∀ (keypair : Keypair crates) bytes ctx, call.Builds crates bytes ctx →
      (signCallWithKeypair keypair bytes ctx).Steps relation) :
    (call.serve crates).Steps relation := by
  rcases call with ⟨source, content⟩
  cases source with
  | seed value =>
      cases content with
      | transfer params =>
          refine Action.Steps.ofExcept_bind fun seed _ => ?_
          refine Action.Steps.bind_of_returned (encodeTransfer_steps notes _) ?_
          rintro object ⟨_, _, ran⟩
          refine Action.Steps.ofExcept_bind fun ⟨transfer, scheme⟩ whole => ?_
          obtain ⟨js, encoded, delivered, built, content⟩ :=
            @stages_transfer _ (.seed value) _ _ _ _ _ _ ran whole
          refine Action.Steps.mapError ?_ _
          refine Action.Steps.ofExcept_bind fun keypair _ => ?_
          exact signs keypair _ _ ⟨_, js, scheme, encoded, delivered, built, content⟩
      | call call params =>
          refine Action.Steps.ofExcept_bind fun seed _ => ?_
          refine Action.Steps.ofExcept_bind fun bytes given => ?_
          refine Action.Steps.bind_of_returned (encodeContext_steps notes _) ?_
          rintro object ⟨_, _, ran⟩
          refine Action.Steps.ofExcept_bind fun ⟨ctx, scheme⟩ whole => ?_
          obtain ⟨js, encoded, delivered, built⟩ :=
            @stages_call _ (.seed value) _ _ _ _ _ _ ran whole
          refine Action.Steps.mapError ?_ _
          refine Action.Steps.ofExcept_bind fun keypair _ => ?_
          exact signs keypair _ _ ⟨_, js, scheme, encoded, delivered, built, .call given⟩
  | mnemonic mnemonic opts =>
      cases content with
      | transfer params =>
          refine Action.Steps.bind_of_returned (encodeTransfer_steps notes _) ?_
          rintro object ⟨_, _, ran⟩
          refine Action.Steps.ofExcept_bind fun ⟨transfer, scheme⟩ whole => ?_
          obtain ⟨js, encoded, delivered, built, content⟩ :=
            @stages_transfer _ (.mnemonic mnemonic opts) _ _ _ _ _ _ ran whole
          have parsed := KeySource.parseScheme_of_built encoded delivered built
          refine Action.Steps.bind
            (keypairFromMnemonic_steps fun host => derives host scheme parsed) ?_
          intro keypair
          refine Action.Steps.mapError ?_ _
          exact signs keypair _ _ ⟨_, js, scheme, encoded, delivered, built, content⟩
      | call call params =>
          refine Action.Steps.ofExcept_bind fun bytes given => ?_
          refine Action.Steps.bind_of_returned (encodeContext_steps notes _) ?_
          rintro object ⟨_, _, ran⟩
          refine Action.Steps.ofExcept_bind fun ⟨ctx, scheme⟩ whole => ?_
          obtain ⟨js, encoded, delivered, built⟩ :=
            @stages_call _ (.mnemonic mnemonic opts) _ _ _ _ _ _ ran whole
          have parsed := KeySource.parseScheme_of_built encoded delivered built
          refine Action.Steps.bind
            (keypairFromMnemonic_steps fun host => derives host scheme parsed) ?_
          intro keypair
          refine Action.Steps.mapError ?_ _
          exact signs keypair _ _ ⟨_, js, scheme, encoded, delivered, built, .call given⟩

end SigningCall

end Steps

end QuantusWasm.Js
