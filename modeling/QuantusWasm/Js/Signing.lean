import QuantusWasm.Js.Index

/-!
# Signing calls from JavaScript

The four signing functions differ in where the key comes from and in what is
signed.  Both are data here, so that what a call does when it returns is said
once for all four.
-/

namespace QuantusWasm.Js

open Ecma Effect Ext

/-- Where the signing key comes from. -/
inductive KeySource where
  | seed (seed : Value)
  | mnemonic (mnemonic : Text) (opts : MnemonicOptions)

/-- What is signed. -/
inductive Content where
  | transfer (params : TransferParams)
  | call (call : Value) (params : CallParams)

/-- A call of one of the four signing functions. -/
structure SigningCall where
  source : KeySource
  content : Content

namespace Content

/-- The context fields of the parameters. -/
def params : Content → CallParams
  | transfer params => params.toCallParams
  | call _ params => params

/-- How serde reaches the context fields. -/
def route : Content → Route
  | transfer _ => .flattened
  | call _ _ => .direct

/-- The call bytes a content stands for in a signing context. -/
inductive Encodes (crates : Crates) : Content → SignContext → List UInt8 → Prop
  | transfer {params : TransferParams} {ctx : SignContext} {keepAlive : Bool}
      {recipientText amountText : Text} {recipient : AccountId32} {amount : BitVec 128}
      {assetId : Option UInt32} (keepAlive_eq : params.keepAlive = .boolean keepAlive)
      (recipientGiven : toRecipient params.recipient = .ok recipientText)
      (recipientParsed : Wasm.parseAccountId crates recipientText.toScalars = .ok recipient)
      (amountGiven : toDecimal params.amount "amount" = .ok amountText)
      (amountParsed : Wasm.parseU128 amountText.toScalars "amount" = .ok amount)
      (assetGiven : Wasm.deserializeAssetId crates params.assetId = .ok assetId) :
      Encodes crates (transfer params) ctx
        (encodeCall ⟨recipient, amount, assetId, keepAlive, ctx⟩)
  | call {value : Value} {params : CallParams} {ctx : SignContext} {bytes : List UInt8}
      (given : toBytes value "call" = .ok bytes) : Encodes crates (call value params) ctx bytes

end Content

namespace KeySource

/-- The scheme name handed to `encodeContext`. -/
def schemeArgument (params : CallParams) : KeySource → Option Text
  | seed _ => none
  | mnemonic _ opts => opts.scheme <|> params.scheme

/-- The scheme name that selects the key. -/
def schemeName (params : CallParams) : KeySource → Option Text
  | seed _ => params.scheme
  | mnemonic _ opts => opts.scheme <|> params.scheme

/-- The key a source yields for a scheme. -/
def keypair (crates : Crates) (params : CallParams) (scheme : Scheme) :
    KeySource → Except Thrown (Keypair crates)
  | seed value => do
      let seed ← asSeed value
      (Keypair.fromSeed crates seed scheme).mapError Wasm.toJsError
  | mnemonic phrase opts =>
      let (account, change, addressIndex) := indices opts (opts.scheme <|> params.scheme)
      ((crates.deriveKeyFromMnemonic scheme phrase.toScalars
        (opts.passphrase.map Text.toScalars)
        (Wasm.quantusPath account change addressIndex)).mapError
          fun reason => .jsError ("mnemonic derivation failed: " ++ reason)).map
        fun key => ⟨scheme, key⟩

/-- The trace that obtaining the key leaves. -/
def derive (params : CallParams) (scheme : Scheme) : KeySource → Host → Host
  | seed _, host => host
  | mnemonic phrase opts, host =>
      let (account, change, addressIndex) := indices opts (opts.scheme <|> params.scheme)
      host.derived ⟨scheme, phrase.toScalars, opts.passphrase.map Text.toScalars,
        Wasm.quantusPath account change addressIndex⟩

/-- Falling back to the parameters' scheme twice is falling back once. -/
theorem orElse_orElse_self (first second : Option Text) :
    ((first <|> second) <|> second) = (first <|> second) := by
  cases first <;> cases second <;> rfl

/-- Precedence is settled before the parameters are encoded. -/
theorem schemeArgument_orElse (params : CallParams) (source : KeySource) :
    (source.schemeArgument params <|> params.scheme) = source.schemeName params := by
  cases source with
  | seed value => rfl
  | mnemonic phrase opts => exact orElse_orElse_self opts.scheme params.scheme

end KeySource

/-- The host after a period was looked at: an omitted one warns, but only
once. -/
def noted (period : Value) (host : Host) : Host :=
  if period = .undefined ∧ host.warnedImmortal = false then
    { host with warnedImmortal := true, warnings := host.warnings + 1 }
  else
    host

theorem run_encodeContext (params : CallParams) (scheme : Option Text) (host : Host) :
    (encodeContext params scheme).run host =
      (contextObject params scheme, noted params.period host) := by
  unfold encodeContext noted
  by_cases omitted : params.period = .undefined
  · cases warned : host.warnedImmortal with
    | false =>
        have ran : warnImmortalOnce.run host =
            (.ok (), { host with warnedImmortal := true, warnings := host.warnings + 1 }) := by
          rw [warnImmortalOnce, Action.run_bind_of_ok (Action.run_query _ _), warned]
          rfl
        rw [if_pos omitted, if_pos ⟨omitted, rfl⟩, Action.run_bind_of_ok ran]
        rfl
    | true =>
        have ran : warnImmortalOnce.run host = (.ok (), host) := by
          rw [warnImmortalOnce, Action.run_bind_of_ok (Action.run_query _ _), warned]
          rfl
        rw [if_pos omitted, if_neg (by simp), Action.run_bind_of_ok ran]
        rfl
  · rw [if_neg omitted, if_neg (fun both => omitted both.1)]
    rfl

theorem run_encodeTransfer_eq_ok_iff {params : TransferParams} {scheme : Option Text}
    {host after : Host} {object : Wasm.TransferObject} :
    (encodeTransfer params scheme).run host = (.ok object, after) ↔
      ∃ keepAlive recipient amount ctx, params.keepAlive = .boolean keepAlive ∧
        toRecipient params.recipient = .ok recipient ∧
        toDecimal params.amount "amount" = .ok amount ∧
        contextObject params.toCallParams scheme = .ok ctx ∧
        object = ⟨recipient, amount, params.assetId, keepAlive, ctx⟩ ∧
        after = noted params.period host := by
  unfold encodeTransfer
  cases params.keepAlive with
  | boolean keepAlive =>
      simp only [Action.run_ofExcept_bind_eq_ok_iff]
      simp only [Action.run_bind_eq_ok_iff, run_encodeContext, Action.run_pure, Prod.mk.injEq,
        Except.ok.injEq, Value.boolean.injEq]
      constructor
      · rintro ⟨recipient, recipientGiven, amount, amountGiven, ctx, _, ⟨encoded, rfl⟩, rfl, rfl⟩
        exact ⟨keepAlive, recipient, amount, ctx, rfl, recipientGiven, amountGiven, encoded, rfl,
          rfl⟩
      · rintro ⟨_, recipient, amount, ctx, rfl, recipientGiven, amountGiven, encoded, rfl, rfl⟩
        exact ⟨recipient, recipientGiven, amount, amountGiven, ctx, _, ⟨encoded, rfl⟩, rfl, rfl⟩
  | undefined => simp
  | null => simp
  | number value => simp
  | bigint value => simp
  | string value => simp
  | uint8Array value => simp
  | other => simp

namespace SigningCall

variable {crates : Crates}

/-- The exported function that a call names. -/
def serve (crates : Crates) : SigningCall → Action Host Thrown (List UInt8)
  | ⟨.seed seed, .transfer params⟩ => signTransfer crates seed params
  | ⟨.seed seed, .call call params⟩ => signCall crates seed call params
  | ⟨.mnemonic mnemonic opts, .transfer params⟩ =>
      signTransferFromMnemonic crates mnemonic params opts
  | ⟨.mnemonic mnemonic opts, .call call params⟩ =>
      signCallFromMnemonic crates mnemonic call params opts

/-- What a signing call that returns went through. -/
structure Execution (crates : Crates) (call : SigningCall) (before : Host)
    (output : List UInt8) (after : Host) where
  object : Wasm.ContextObject
  js : Wasm.JsSignContext
  ctx : SignContext
  scheme : Scheme
  bytes : List UInt8
  keypair : Keypair crates
  encoded : contextObject call.content.params (call.source.schemeArgument call.content.params) =
    .ok object
  delivered : Wasm.deserializeContext crates call.content.route object = .ok js
  built : Wasm.buildSignContext js = .ok (ctx, scheme)
  content : call.content.Encodes crates ctx bytes
  keyed : call.source.keypair crates call.content.params scheme = .ok keypair
  signed : (signCallWithKeypair keypair bytes ctx).run (call.source.derive call.content.params
    scheme (noted call.content.params.period before)) = (.ok output, after)

/-- A seed call obtains its key and signs in one step. -/
private theorem run_fromSeed_eq_ok_iff {seed : List UInt8} {scheme : Scheme}
    {next : Keypair crates → Action Host Error (List UInt8)} {host after : Host}
    {output : List UInt8} :
    ((Action.ofExcept (Keypair.fromSeed crates seed scheme) >>= next).mapError
        Wasm.toJsError).run host = (.ok output, after) ↔
      ∃ keypair, (Keypair.fromSeed crates seed scheme).mapError Wasm.toJsError = .ok keypair ∧
        (next keypair).run host = (.ok output, after) := by
  simp only [Action.run_mapError_eq_ok_iff, Action.run_ofExcept_bind_eq_ok_iff,
    mapError_eq_ok_iff]

/-- A mnemonic call derives its key and signs. -/
private theorem run_fromMnemonic_eq_ok_iff {mnemonic : Text} {opts : MnemonicOptions}
    {params : CallParams} {scheme : Scheme}
    {next : Keypair crates → Action Host Error (List UInt8)} {host after : Host}
    {output : List UInt8} :
    (Wasm.keypairFromMnemonic crates mnemonic.toScalars (opts.passphrase.map Text.toScalars)
        (indices opts (opts.scheme <|> params.scheme)).1
        (indices opts (opts.scheme <|> params.scheme)).2.1
        (indices opts (opts.scheme <|> params.scheme)).2.2 scheme >>= fun keypair =>
          (next keypair).mapError Wasm.toJsError).run host = (.ok output, after) ↔
      ∃ keypair, (KeySource.mnemonic mnemonic opts).keypair crates params scheme = .ok keypair ∧
        (next keypair).run ((KeySource.mnemonic mnemonic opts).derive params scheme host) =
          (.ok output, after) := by
  simp only [Action.run_bind_eq_ok_iff, Wasm.run_keypairFromMnemonic_eq_ok_iff,
    Action.run_mapError_eq_ok_iff]
  constructor
  · rintro ⟨keypair, _, ⟨derived, rfl⟩, signed⟩
    exact ⟨keypair, derived, signed⟩
  · rintro ⟨keypair, derived, signed⟩
    exact ⟨keypair, _, ⟨derived, rfl⟩, signed⟩

/-- A transfer call returns exactly when its parameters encode and build and
the rest, given what they build, returns. -/
private theorem run_transfer_eq_ok_iff {params : TransferParams} {argument : Option Text}
    {next : Ext.TransferParams × Scheme → Action Host Thrown (List UInt8)} {host after : Host}
    {output : List UInt8} :
    (encodeTransfer params argument >>= fun object =>
        Action.ofExcept (Wasm.buildTransferParams crates object) >>= next).run host =
        (.ok output, after) ↔
      ∃ keepAlive recipientText amountText object assetId js ctx scheme recipient amount,
        params.keepAlive = .boolean keepAlive ∧
        toRecipient params.recipient = .ok recipientText ∧
        toDecimal params.amount "amount" = .ok amountText ∧
        contextObject params.toCallParams argument = .ok object ∧
        Wasm.deserializeAssetId crates params.assetId = .ok assetId ∧
        Wasm.deserializeContext crates .flattened object = .ok js ∧
        Wasm.buildSignContext js = .ok (ctx, scheme) ∧
        Wasm.parseAccountId crates recipientText.toScalars = .ok recipient ∧
        Wasm.parseU128 amountText.toScalars "amount" = .ok amount ∧
        (next (⟨recipient, amount, assetId, keepAlive, ctx⟩, scheme)).run
          (noted params.period host) = (.ok output, after) := by
  rw [Action.run_bind_eq_ok_iff]
  simp only [run_encodeTransfer_eq_ok_iff, Action.run_ofExcept_bind_eq_ok_iff]
  constructor
  · rintro ⟨_, _, ⟨keepAlive, recipientText, amountText, object, keepAlive_eq, recipientGiven,
      amountGiven, encoded, rfl, rfl⟩, ⟨transfer, scheme⟩, whole, signed⟩
    obtain ⟨assetId, js, ctx, recipient, amount, assetGiven, delivered, built, recipientParsed,
      amountParsed, rfl⟩ := Wasm.buildTransferParams_eq_ok_iff.mp whole
    exact ⟨keepAlive, recipientText, amountText, object, assetId, js, ctx, scheme, recipient,
      amount, keepAlive_eq, recipientGiven, amountGiven, encoded, assetGiven, delivered, built,
      recipientParsed, amountParsed, signed⟩
  · rintro ⟨keepAlive, recipientText, amountText, object, assetId, js, ctx, scheme, recipient,
      amount, keepAlive_eq, recipientGiven, amountGiven, encoded, assetGiven, delivered, built,
      recipientParsed, amountParsed, signed⟩
    exact ⟨_, _, ⟨keepAlive, recipientText, amountText, object, keepAlive_eq, recipientGiven,
      amountGiven, encoded, rfl, rfl⟩, _, Wasm.buildTransferParams_eq_ok_iff.mpr ⟨assetId, js,
      ctx, recipient, amount, assetGiven, delivered, built, recipientParsed, amountParsed, rfl⟩,
      signed⟩

/-- A call of the generic signer returns exactly when its context encodes and
builds and the rest returns. -/
private theorem run_context_eq_ok_iff {params : CallParams} {argument : Option Text}
    {next : SignContext × Scheme → Action Host Thrown (List UInt8)} {host after : Host}
    {output : List UInt8} :
    (encodeContext params argument >>= fun object =>
        Action.ofExcept (Wasm.buildSignContextFromValue crates object) >>= next).run host =
        (.ok output, after) ↔
      ∃ object js ctx scheme, contextObject params argument = .ok object ∧
        Wasm.deserializeContext crates .direct object = .ok js ∧
        Wasm.buildSignContext js = .ok (ctx, scheme) ∧
        (next (ctx, scheme)).run (noted params.period host) = (.ok output, after) := by
  rw [Action.run_bind_eq_ok_iff]
  simp only [run_encodeContext, Prod.mk.injEq, Action.run_ofExcept_bind_eq_ok_iff,
    Wasm.buildSignContextFromValue_eq_ok_iff]
  constructor
  · rintro ⟨object, _, ⟨encoded, rfl⟩, ⟨ctx, scheme⟩, ⟨js, delivered, built⟩, signed⟩
    exact ⟨object, js, ctx, scheme, encoded, delivered, built, signed⟩
  · rintro ⟨object, js, ctx, scheme, encoded, delivered, built, signed⟩
    exact ⟨object, _, ⟨encoded, rfl⟩, (ctx, scheme), ⟨js, delivered, built⟩, signed⟩

theorem run_signTransfer_eq_ok_iff {value : Value} {params : TransferParams}
    {before after : Host} {output : List UInt8} :
    (signTransfer crates value params).run before = (.ok output, after) ↔
      Nonempty (Execution crates ⟨.seed value, .transfer params⟩ before output after) := by
  change (Action.ofExcept (asSeed value) >>= fun seed =>
    encodeTransfer params none >>= fun object =>
      Action.ofExcept (Wasm.buildTransferParams crates object) >>= fun built =>
        (Ext.signTransfer crates seed built.2 built.1).mapError Wasm.toJsError).run before =
          (.ok output, after) ↔ _
  simp only [Action.run_ofExcept_bind_eq_ok_iff, run_transfer_eq_ok_iff, Ext.signTransfer,
    run_fromSeed_eq_ok_iff]
  constructor
  · rintro ⟨seed, seedGiven, keepAlive, recipientText, amountText, object, assetId, js, ctx,
      scheme, recipient, amount, keepAlive_eq, recipientGiven, amountGiven, encoded,
      assetGiven, delivered, built, recipientParsed, amountParsed, keypair, keyed, signed⟩
    exact ⟨⟨object, js, ctx, scheme, _, keypair, encoded, delivered, built,
      .transfer keepAlive_eq recipientGiven recipientParsed amountGiven amountParsed
        assetGiven, bind_eq_ok_iff.mpr ⟨seed, seedGiven, keyed⟩, signed⟩⟩
  · rintro ⟨⟨object, js, ctx, scheme, _, keypair, encoded, delivered, built, content, keyed,
      signed⟩⟩
    rcases bind_eq_ok_iff.mp keyed with ⟨seed, seedGiven, keyed⟩
    cases content with
    | transfer keepAlive_eq recipientGiven recipientParsed amountGiven amountParsed
        assetGiven =>
        exact ⟨seed, seedGiven, _, _, _, object, _, js, ctx, scheme, _, _, keepAlive_eq,
          recipientGiven, amountGiven, encoded, assetGiven, delivered, built,
          recipientParsed, amountParsed, keypair, keyed, signed⟩

theorem run_signCall_eq_ok_iff {value call : Value} {params : CallParams}
    {before after : Host} {output : List UInt8} :
    (signCall crates value call params).run before = (.ok output, after) ↔
      Nonempty (Execution crates ⟨.seed value, .call call params⟩ before output after) := by
  change (Action.ofExcept (asSeed value) >>= fun seed =>
    Action.ofExcept (toBytes call "call") >>= fun bytes =>
      encodeContext params none >>= fun object =>
        Action.ofExcept (Wasm.buildSignContextFromValue crates object) >>= fun built =>
          (Ext.signCall crates seed built.2 bytes built.1).mapError
            Wasm.toJsError).run before = (.ok output, after) ↔ _
  simp only [Action.run_ofExcept_bind_eq_ok_iff, run_context_eq_ok_iff, Ext.signCall,
    run_fromSeed_eq_ok_iff]
  constructor
  · rintro ⟨seed, seedGiven, bytes, given, object, js, ctx, scheme, encoded, delivered,
      built, keypair, keyed, signed⟩
    exact ⟨⟨object, js, ctx, scheme, bytes, keypair, encoded, delivered, built,
      .call given, bind_eq_ok_iff.mpr ⟨seed, seedGiven, keyed⟩, signed⟩⟩
  · rintro ⟨⟨object, js, ctx, scheme, bytes, keypair, encoded, delivered, built, content,
      keyed, signed⟩⟩
    rcases bind_eq_ok_iff.mp keyed with ⟨seed, seedGiven, keyed⟩
    cases content with
    | call given =>
        exact ⟨seed, seedGiven, bytes, given, object, js, ctx, scheme, encoded, delivered,
          built, keypair, keyed, signed⟩

theorem run_signTransferFromMnemonic_eq_ok_iff {mnemonic : Text} {params : TransferParams}
    {opts : MnemonicOptions} {before after : Host} {output : List UInt8} :
    (signTransferFromMnemonic crates mnemonic params opts).run before = (.ok output, after) ↔
      Nonempty (Execution crates ⟨.mnemonic mnemonic opts, .transfer params⟩ before output
        after) := by
  change (encodeTransfer params (opts.scheme <|> params.scheme) >>= fun object =>
    Action.ofExcept (Wasm.buildTransferParams crates object) >>= fun built =>
      Wasm.keypairFromMnemonic crates mnemonic.toScalars
        (opts.passphrase.map Text.toScalars)
        (indices opts (opts.scheme <|> params.scheme)).1
        (indices opts (opts.scheme <|> params.scheme)).2.1
        (indices opts (opts.scheme <|> params.scheme)).2.2 built.2 >>= fun keypair =>
          (signTransferWithKeypair keypair built.1).mapError Wasm.toJsError).run before =
            (.ok output, after) ↔ _
  simp only [run_transfer_eq_ok_iff, run_fromMnemonic_eq_ok_iff]
  constructor
  · rintro ⟨keepAlive, recipientText, amountText, object, assetId, js, ctx, scheme,
      recipient, amount, keepAlive_eq, recipientGiven, amountGiven, encoded, assetGiven,
      delivered, built, recipientParsed, amountParsed, keypair, keyed, signed⟩
    exact ⟨⟨object, js, ctx, scheme, _, keypair, encoded, delivered, built,
      .transfer keepAlive_eq recipientGiven recipientParsed amountGiven amountParsed
        assetGiven, keyed, signed⟩⟩
  · rintro ⟨⟨object, js, ctx, scheme, _, keypair, encoded, delivered, built, content, keyed,
      signed⟩⟩
    cases content with
    | transfer keepAlive_eq recipientGiven recipientParsed amountGiven amountParsed
        assetGiven =>
        exact ⟨_, _, _, object, _, js, ctx, scheme, _, _, keepAlive_eq, recipientGiven,
          amountGiven, encoded, assetGiven, delivered, built, recipientParsed, amountParsed,
          keypair, keyed, signed⟩

theorem run_signCallFromMnemonic_eq_ok_iff {mnemonic : Text} {call : Value} {params : CallParams}
    {opts : MnemonicOptions} {before after : Host} {output : List UInt8} :
    (signCallFromMnemonic crates mnemonic call params opts).run before = (.ok output, after) ↔
      Nonempty (Execution crates ⟨.mnemonic mnemonic opts, .call call params⟩ before output
        after) := by
  change (Action.ofExcept (toBytes call "call") >>= fun bytes =>
    encodeContext params (opts.scheme <|> params.scheme) >>= fun object =>
      Action.ofExcept (Wasm.buildSignContextFromValue crates object) >>= fun built =>
        Wasm.keypairFromMnemonic crates mnemonic.toScalars
          (opts.passphrase.map Text.toScalars)
          (indices opts (opts.scheme <|> params.scheme)).1
          (indices opts (opts.scheme <|> params.scheme)).2.1
          (indices opts (opts.scheme <|> params.scheme)).2.2 built.2 >>= fun keypair =>
            (signCallWithKeypair keypair bytes built.1).mapError
              Wasm.toJsError).run before = (.ok output, after) ↔ _
  simp only [Action.run_ofExcept_bind_eq_ok_iff, run_context_eq_ok_iff,
    run_fromMnemonic_eq_ok_iff]
  constructor
  · rintro ⟨bytes, given, object, js, ctx, scheme, encoded, delivered, built, keypair,
      keyed, signed⟩
    exact ⟨⟨object, js, ctx, scheme, bytes, keypair, encoded, delivered, built,
      .call given, keyed, signed⟩⟩
  · rintro ⟨⟨object, js, ctx, scheme, bytes, keypair, encoded, delivered, built, content,
      keyed, signed⟩⟩
    cases content with
    | call given =>
        exact ⟨bytes, given, object, js, ctx, scheme, encoded, delivered, built, keypair,
          keyed, signed⟩

/-- A signing call returns exactly when all its stages do. -/
theorem run_serve_eq_ok_iff {call : SigningCall} {before after : Host} {output : List UInt8} :
    (call.serve crates).run before = (.ok output, after) ↔
      Nonempty (Execution crates call before output after) := by
  rcases call with ⟨source, content⟩
  cases source with
  | seed value =>
      cases content with
      | transfer params => exact run_signTransfer_eq_ok_iff
      | call call params => exact run_signCall_eq_ok_iff
  | mnemonic mnemonic opts =>
      cases content with
      | transfer params => exact run_signTransferFromMnemonic_eq_ok_iff
      | call call params => exact run_signCallFromMnemonic_eq_ok_iff

end SigningCall

end QuantusWasm.Js
