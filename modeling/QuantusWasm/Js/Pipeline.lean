import QuantusWasm.Js.Serve

/-!
# The signing pipeline

All four signing functions run through the same stages: checks of the arguments
that need no context, the note of the period, the encoding and building of the
context, the derivation of the key, and one signing.  This holds of calls that
throw as well, so where a call stops decides what it leaves behind.
-/

namespace QuantusWasm.Js

open Ecma Effect Ext

/-- The error for a `keepAlive` that is no boolean. -/
def keepAliveRequired : Thrown :=
  .typeError ("keepAlive is required: true builds balances.transfer_keep_alive, " ++
    "false builds balances.transfer_allow_death")

/-- A transfer object without its context, from the checks that need none. -/
def transferObject (params : TransferParams) :
    Except Thrown (Wasm.ContextObject → Wasm.TransferObject) :=
  match params.keepAlive with
  | .boolean keepAlive => do
      let recipient ← toRecipient params.recipient
      let amount ← toDecimal params.amount "amount"
      pure fun ctx => ⟨recipient, amount, params.assetId, keepAlive, ctx⟩
  | _ => .error keepAliveRequired

/-- A content after the checks that come before its context is looked at. -/
inductive CheckedContent where
  | transfer (object : Wasm.ContextObject → Wasm.TransferObject)
  | call (bytes : List UInt8)

/-- Convert the arguments of a content. -/
def Content.check : Content → Except Thrown CheckedContent
  | .transfer params => (transferObject params).map .transfer
  | .call value _ => (toBytes value "call").map .call

/-- Convert the key argument. -/
def KeySource.check : KeySource → Except Thrown Unit
  | .seed value => (asSeed value).map fun _ => ()
  | .mnemonic _ _ => .ok ()

/-- Call bytes, context and scheme of a checked content and a context object. -/
def CheckedContent.build (crates : Crates) (object : Wasm.ContextObject) :
    CheckedContent → Except Thrown (List UInt8 × SignContext × Scheme)
  | transfer fill => (Wasm.buildTransferParams crates (fill object)).map fun built =>
      (encodeCall built.1, built.1.ctx, built.2)
  | call bytes =>
      (Wasm.buildSignContextFromValue crates object).map fun built => (bytes, built.1, built.2)

/-- Obtain the key of a source and use it. -/
def KeySource.withKey {crates : Crates} (source : KeySource) (params : CallParams)
    (scheme : Scheme) (use : Keypair crates → Action Host Error (List UInt8)) :
    Action Host Thrown (List UInt8) := do
  Action.update (source.derive params scheme)
  let keypair ← Action.ofExcept (source.keypair crates params scheme)
  (use keypair).mapError Wasm.toJsError

/-- The stages of a signing call, one after the other. -/
def SigningCall.pipeline (crates : Crates) (call : SigningCall) :
    Action Host Thrown (List UInt8) := do
  Action.ofExcept call.source.check
  let checked ← Action.ofExcept call.content.check
  Action.update (noted call.content.params.period)
  let object ← Action.ofExcept
    (contextObject call.content.params (call.source.schemeArgument call.content.params))
  let (bytes, ctx, scheme) ← Action.ofExcept (checked.build crates object)
  call.source.withKey call.content.params scheme fun keypair : Keypair crates =>
    signCallWithKeypair keypair bytes ctx

/-! ## The exported functions are the pipeline -/

section Runs

variable {crates : Crates}

theorem run_encodeTransfer (params : TransferParams) (scheme : Option Text) (host : Host) :
    (encodeTransfer params scheme).run host =
      match transferObject params with
      | .error thrown => (.error thrown, host)
      | .ok object =>
          ((contextObject params.toCallParams scheme).map object, noted params.period host) := by
  cases given : params.keepAlive with
  | boolean keepAlive =>
      simp only [encodeTransfer, transferObject, given]
      cases toRecipient params.recipient with
      | error thrown => rfl
      | ok recipient =>
          cases toDecimal params.amount "amount" with
          | error thrown => rfl
          | ok amount =>
              simp only [Action.run_bind, Action.run_ofExcept, run_encodeContext]
              cases contextObject params.toCallParams scheme <;> rfl
  | undefined => simp only [encodeTransfer, transferObject, given]; rfl
  | null => simp only [encodeTransfer, transferObject, given]; rfl
  | number value => simp only [encodeTransfer, transferObject, given]; rfl
  | bigint value => simp only [encodeTransfer, transferObject, given]; rfl
  | string value => simp only [encodeTransfer, transferObject, given]; rfl
  | uint8Array value => simp only [encodeTransfer, transferObject, given]; rfl
  | other => simp only [encodeTransfer, transferObject, given]; rfl

/-- The bindings obtain the key of a seed and sign in one step. -/
theorem run_withKey_seed {value : Value} {seed : List UInt8} (seedGiven : asSeed value = .ok seed)
    (params : CallParams) (scheme : Scheme)
    (use : Keypair crates → Action Host Error (List UInt8)) (host : Host) :
    ((KeySource.seed value).withKey params scheme use).run host =
      ((Action.ofExcept (Keypair.fromSeed crates seed scheme) >>= use).mapError
        Wasm.toJsError).run host := by
  have keyed : (KeySource.seed value).keypair crates params scheme =
      (Keypair.fromSeed crates seed scheme).mapError Wasm.toJsError := by
    rw [KeySource.keypair, seedGiven]
    rfl
  simp only [KeySource.withKey, keyed, KeySource.derive, Action.run_bind, Action.run_update,
    Action.run_ofExcept, Action.run_mapError]
  cases Keypair.fromSeed crates seed scheme <;> rfl

/-- They derive the key of a mnemonic first. -/
theorem run_withKey_mnemonic (mnemonic : Text) (opts : MnemonicOptions) (params : CallParams)
    (scheme : Scheme) (use : Keypair crates → Action Host Error (List UInt8)) (host : Host) :
    ((KeySource.mnemonic mnemonic opts).withKey params scheme use).run host =
      (Wasm.keypairFromMnemonic crates mnemonic.toScalars (opts.passphrase.map Text.toScalars)
        (indices opts (opts.scheme <|> params.scheme)).1
        (indices opts (opts.scheme <|> params.scheme)).2.1
        (indices opts (opts.scheme <|> params.scheme)).2.2 scheme >>= fun keypair =>
          (use keypair).mapError Wasm.toJsError).run host := by
  simp only [KeySource.withKey, KeySource.keypair, KeySource.derive, Wasm.keypairFromMnemonic,
    Action.run_bind, Action.run_update, Action.run_ofExcept, Action.run_mapError]
  cases crates.deriveKeyFromMnemonic scheme mnemonic.toScalars
    (opts.passphrase.map Text.toScalars) (Wasm.quantusPath
      (indices opts (opts.scheme <|> params.scheme)).1
      (indices opts (opts.scheme <|> params.scheme)).2.1
      (indices opts (opts.scheme <|> params.scheme)).2.2) <;> rfl

/-- Each of the four functions is the pipeline. -/
theorem SigningCall.run_serve (call : SigningCall) (host : Host) :
    (call.serve crates).run host = (call.pipeline crates).run host := by
  rcases call with ⟨source, content⟩
  cases source with
  | seed value =>
      cases content with
      | transfer params =>
          simp only [serve, signTransfer, pipeline, Action.run_bind, Action.run_ofExcept,
            run_encodeTransfer, KeySource.check, Content.check]
          cases seedGiven : asSeed value with
          | error thrown => rfl
          | ok seed =>
              cases transferObject params with
              | error thrown => rfl
              | ok fill =>
                  simp only [Content.params, KeySource.schemeArgument, Except.map]
                  cases contextObject params.toCallParams none with
                  | error thrown => rfl
                  | ok object =>
                      simp only [CheckedContent.build, Wasm.signTransfer, Action.run_bind,
                        Action.run_ofExcept, Action.run_update]
                      cases Wasm.buildTransferParams crates (fill object) with
                      | error thrown => rfl
                      | ok built => exact (run_withKey_seed seedGiven _ _ _ _).symm
      | call call params =>
          simp only [serve, signCall, pipeline, Action.run_bind, Action.run_ofExcept,
            run_encodeContext, KeySource.check, Content.check]
          cases seedGiven : asSeed value with
          | error thrown => rfl
          | ok seed =>
              cases toBytes call "call" with
              | error thrown => rfl
              | ok bytes =>
                  simp only [Content.params, KeySource.schemeArgument, Except.map]
                  cases contextObject params none with
                  | error thrown => rfl
                  | ok object =>
                      simp only [CheckedContent.build, Wasm.signCall, Action.run_bind,
                        Action.run_ofExcept, Action.run_update]
                      cases Wasm.buildSignContextFromValue crates object with
                      | error thrown => rfl
                      | ok built => exact (run_withKey_seed seedGiven _ _ _ _).symm
  | mnemonic mnemonic opts =>
      cases content with
      | transfer params =>
          simp only [serve, signTransferFromMnemonic, pipeline, Action.run_bind,
            Action.run_ofExcept, run_encodeTransfer, KeySource.check, Content.check]
          cases transferObject params with
          | error thrown => rfl
          | ok fill =>
              simp only [Content.params, KeySource.schemeArgument, Except.map]
              cases contextObject params.toCallParams (opts.scheme <|> params.scheme) with
              | error thrown => rfl
              | ok object =>
                  simp only [CheckedContent.build, Wasm.signTransferFromMnemonic,
                    Action.run_bind, Action.run_ofExcept, Action.run_update]
                  cases Wasm.buildTransferParams crates (fill object) with
                  | error thrown => rfl
                  | ok built => exact (run_withKey_mnemonic _ _ _ _ _ _).symm
      | call call params =>
          simp only [serve, signCallFromMnemonic, pipeline, Action.run_bind,
            Action.run_ofExcept, run_encodeContext, KeySource.check, Content.check]
          cases toBytes call "call" with
          | error thrown => rfl
          | ok bytes =>
              simp only [Content.params, KeySource.schemeArgument, Except.map]
              cases contextObject params (opts.scheme <|> params.scheme) with
              | error thrown => rfl
              | ok object =>
                  simp only [CheckedContent.build, Wasm.signCallFromMnemonic,
                    Action.run_bind, Action.run_ofExcept, Action.run_update]
                  cases Wasm.buildSignContextFromValue crates object with
                  | error thrown => rfl
                  | ok built => exact (run_withKey_mnemonic _ _ _ _ _ _).symm

end Runs

/-! ## What a signing call can come to -/

theorem draws_noted (period : Value) (host : Host) : (noted period host).draws = host.draws := by
  unfold noted
  split_ifs <;> rfl

theorem draws_derive (source : KeySource) (params : CallParams) (scheme : Scheme) (host : Host) :
    (source.derive params scheme host).draws = host.draws := by
  cases source <;> rfl

theorem transferObject_eq_ok_iff {params : TransferParams}
    {fill : Wasm.ContextObject → Wasm.TransferObject} :
    transferObject params = .ok fill ↔
      ∃ keepAlive recipient amount, params.keepAlive = .boolean keepAlive ∧
        toRecipient params.recipient = .ok recipient ∧
        toDecimal params.amount "amount" = .ok amount ∧
        fill = fun ctx => ⟨recipient, amount, params.assetId, keepAlive, ctx⟩ := by
  unfold transferObject
  cases params.keepAlive with
  | boolean keepAlive =>
      simp only [bind_eq_ok_iff, Value.boolean.injEq]
      constructor
      · rintro ⟨recipient, recipientGiven, amount, amountGiven, ⟨⟩⟩
        exact ⟨keepAlive, recipient, amount, rfl, recipientGiven, amountGiven, rfl⟩
      · rintro ⟨_, recipient, amount, rfl, recipientGiven, amountGiven, rfl⟩
        exact ⟨recipient, recipientGiven, amount, amountGiven, rfl⟩
  | undefined => simp
  | null => simp
  | number value => simp
  | bigint value => simp
  | string value => simp
  | uint8Array value => simp
  | other => simp

namespace SigningCall

variable {crates : Crates}

/-- Call bytes, context and scheme, from the parameters alone. -/
def build (crates : Crates) (call : SigningCall) :
    Except Thrown (List UInt8 × SignContext × Scheme) := do
  let checked ← call.content.check
  let object ← contextObject call.content.params (call.source.schemeArgument call.content.params)
  checked.build crates object

/-- A call builds exactly when each of its stages does. -/
theorem build_eq_ok_iff {call : SigningCall} {bytes : List UInt8} {ctx : SignContext}
    {scheme : Scheme} :
    call.build crates = .ok (bytes, ctx, scheme) ↔
      ∃ object js,
        contextObject call.content.params (call.source.schemeArgument call.content.params) =
          .ok object ∧
        Wasm.deserializeContext crates call.content.route object = .ok js ∧
        Wasm.buildSignContext js = .ok (ctx, scheme) ∧
        call.content.Encodes crates ctx bytes := by
  rcases call with ⟨source, content⟩
  simp only [build, bind_eq_ok_iff]
  cases content with
  | transfer params =>
      constructor
      · rintro ⟨_, checked, object, encoded, built⟩
        rcases map_eq_ok_iff.mp checked with ⟨fill, filled, rfl⟩
        rcases map_eq_ok_iff.mp built with ⟨⟨transfer, found⟩, whole, ⟨⟩⟩
        obtain ⟨keepAlive, recipientText, amountText, keepAlive_eq, recipientGiven, amountGiven,
          rfl⟩ := transferObject_eq_ok_iff.mp filled
        obtain ⟨_, js, _, _, _, assetGiven, delivered, builtContext, recipientParsed,
          amountParsed, rfl⟩ := Wasm.buildTransferParams_eq_ok_iff.mp whole
        exact ⟨object, js, encoded, delivered, builtContext, .transfer keepAlive_eq recipientGiven
          recipientParsed amountGiven amountParsed assetGiven⟩
      · rintro ⟨object, js, encoded, delivered, builtContext, content⟩
        cases content with
        | transfer keepAlive_eq recipientGiven recipientParsed amountGiven amountParsed
            assetGiven =>
            refine ⟨_, map_eq_ok_iff.mpr ⟨_, transferObject_eq_ok_iff.mpr ⟨_, _, _, keepAlive_eq,
              recipientGiven, amountGiven, rfl⟩, rfl⟩, object, encoded, ?_⟩
            exact map_eq_ok_iff.mpr ⟨_, Wasm.buildTransferParams_eq_ok_iff.mpr ⟨_, js, _, _, _,
              assetGiven, delivered, builtContext, recipientParsed, amountParsed, rfl⟩, rfl⟩
  | call value params =>
      constructor
      · rintro ⟨_, checked, object, encoded, built⟩
        rcases map_eq_ok_iff.mp checked with ⟨bytes, given, rfl⟩
        rcases map_eq_ok_iff.mp built with ⟨⟨ctx, found⟩, whole, ⟨⟩⟩
        obtain ⟨js, delivered, builtContext⟩ := Wasm.buildSignContextFromValue_eq_ok_iff.mp whole
        exact ⟨object, js, encoded, delivered, builtContext, .call given⟩
      · rintro ⟨object, js, encoded, delivered, builtContext, content⟩
        cases content with
        | call given =>
            refine ⟨_, map_eq_ok_iff.mpr ⟨_, given, rfl⟩, object, encoded, ?_⟩
            exact map_eq_ok_iff.mpr ⟨_, Wasm.buildSignContextFromValue_eq_ok_iff.mpr
              ⟨js, delivered, builtContext⟩, rfl⟩

/-- The host that a signing call signs on. -/
def prepared (call : SigningCall) (scheme : Scheme) (before : Host) : Host :=
  call.source.derive call.content.params scheme (noted call.content.params.period before)

/-- Nothing has been drawn or signed until then. -/
theorem draws_prepared (call : SigningCall) (scheme : Scheme) (before : Host) :
    (call.prepared scheme before).draws = before.draws :=
  (draws_derive _ _ _ _).trans (draws_noted _ before)

theorem signatures_prepared (call : SigningCall) (scheme : Scheme) (before : Host) :
    (call.prepared scheme before).signatures = before.signatures :=
  (signatures_derive _ _ _ _).trans (signatures_noted _ before)

/-- A call is refused by a check, refused by its context, left without a key,
or goes on to the signer. -/
inductive Outcome (crates : Crates) (call : SigningCall) (before : Host) :
    Except Thrown (List UInt8) → Host → Prop
  | unchecked {thrown : Thrown}
      (refused : call.source.check = .error thrown ∨ call.content.check = .error thrown) :
      Outcome crates call before (.error thrown) before
  | unbuilt {thrown : Thrown} {checked : CheckedContent}
      (keyPassed : call.source.check = .ok ())
      (passed : call.content.check = .ok checked)
      (refused : call.build crates = .error thrown) :
      Outcome crates call before (.error thrown) (noted call.content.params.period before)
  | unkeyed {thrown : Thrown} {bytes : List UInt8} {ctx : SignContext} {scheme : Scheme}
      (passed : call.source.check = .ok ())
      (built : call.build crates = .ok (bytes, ctx, scheme))
      (refused : call.source.keypair crates call.content.params scheme = .error thrown) :
      Outcome crates call before (.error thrown) (call.prepared scheme before)
  | served {bytes : List UInt8} {ctx : SignContext} {scheme : Scheme} {keypair : Keypair crates}
      {result : Except Error (List UInt8)} {after : Host}
      (built : call.build crates = .ok (bytes, ctx, scheme))
      (keyed : call.source.keypair crates call.content.params scheme = .ok keypair)
      (served : (Request.signCallWithKeypair keypair bytes ctx).Served
        (call.prepared scheme before) result after) :
      Outcome crates call before (result.mapError Wasm.toJsError) after

theorem outcome_of_run {call : SigningCall} {before after : Host}
    {result : Except Thrown (List UInt8)}
    (ran : (call.serve crates).run before = (result, after)) :
    Outcome crates call before result after := by
  simp only [run_serve, pipeline, Action.run_bind, Action.run_ofExcept, Action.run_update] at ran
  cases sourceChecked : call.source.check with
  | error thrown =>
      rw [sourceChecked] at ran
      cases ran
      exact .unchecked (.inl sourceChecked)
  | ok passed =>
      rw [sourceChecked] at ran
      cases checked : call.content.check with
      | error thrown =>
          rw [checked] at ran
          cases ran
          exact .unchecked (.inr checked)
      | ok content =>
          simp only [checked] at ran
          cases encoded : contextObject call.content.params
              (call.source.schemeArgument call.content.params) with
          | error thrown =>
              rw [encoded] at ran
              cases ran
              apply Outcome.unbuilt sourceChecked checked
              simp only [build, checked, encoded]
              rfl
          | ok object =>
              simp only [encoded] at ran
              have built_eq : call.build crates = content.build crates object := by
                simp only [build, checked, encoded]
                rfl
              cases built : content.build crates object with
              | error thrown =>
                  rw [built] at ran
                  cases ran
                  exact .unbuilt sourceChecked checked (built_eq.trans built)
              | ok parts =>
                  rcases parts with ⟨bytes, ctx, scheme⟩
                  simp only [built, KeySource.withKey, Action.run_bind, Action.run_update,
                    Action.run_ofExcept, Action.run_mapError] at ran
                  cases keyed : call.source.keypair crates call.content.params scheme with
                  | error thrown =>
                      rw [keyed] at ran
                      cases ran
                      exact .unkeyed sourceChecked (built_eq.trans built) keyed
                  | ok keypair =>
                      simp only [keyed] at ran
                      cases ran
                      exact .served (built_eq.trans built) keyed
                        ((Request.signCallWithKeypair keypair bytes ctx).served_of_run rfl)

end SigningCall

end QuantusWasm.Js
