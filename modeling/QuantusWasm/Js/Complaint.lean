import QuantusWasm.Effect.Check
import QuantusWasm.Js.Pipeline
import QuantusWasm.Js.Refusal
import QuantusWasm.Wasm.Refusal
import QuantusWasm.Runtime.Mortality

/-!
# Complaints

All the checks of a signing call in the order in which the source makes them.
Each check says what must be wrong for it to complain, with which error it
complains, and the state in which the call then stops.  A call throws exactly
the first complaint.
-/

namespace QuantusWasm.Js

open Ecma Effect Ext

/-! ## Checks of single values -/

namespace Check

/-- A check of a field that may be omitted. -/
def given (value : Value) (check : Value → Thrown → Prop) (thrown : Thrown) : Prop :=
  value ≠ .undefined ∧ check value thrown

/-- Of `asSeed`. -/
def seed (value : Value) (thrown : Thrown) : Prop :=
  thrown = .typeError "seed must be a 32-byte Uint8Array" ∧ ¬IsSeed value

/-- Of `encodeTransfer`, before anything else. -/
def keepAlive (value : Value) (thrown : Thrown) : Prop :=
  thrown = keepAliveRequired ∧ ∀ choice, value ≠ .boolean choice

/-- Of `toRecipient`. -/
def recipient (value : Value) (thrown : Thrown) : Prop :=
  thrown = .typeError "recipient must be an SS58 string, hex string, or Uint8Array" ∧
    ¬IsText value

/-- Of `toDecimal`. -/
def decimal (field : String) (value : Value) (thrown : Thrown) : Prop :=
  thrown = .typeError (field ++ " must be a non-negative integer") ∧ IsBadNumber value ∨
    thrown = .typeError (field ++ " must be a bigint, integer, or decimal string") ∧
      ¬IsAmountKind value

/-- Of `toBytes`. -/
def bytes (field : String) (value : Value) (thrown : Thrown) : Prop :=
  thrown = .typeError (field ++ " must be a hex string or Uint8Array") ∧
    ¬∃ content, RepresentsCall content value

/-- Of `toNumber`. -/
def counter (field : String) (value : Value) (thrown : Thrown) : Prop :=
  thrown = .typeError (field ++ " must be a non-negative integer") ∧ ¬IsCounter value

/-- Of `toHex`. -/
def hex (field : String) (value : Value) (thrown : Thrown) : Prop :=
  thrown = .typeError (field ++ " must be a hex string or Uint8Array") ∧ ¬IsText value

/-- Of `encodeContext`: a positive period needs an anchor. -/
def anchor (params : CallParams) (thrown : Thrown) : Prop :=
  thrown = .typeError "blockHash is required for mortal eras (period > 0)" ∧
    params.blockHash = .undefined ∧
    ∃ period, unlessUndefined params.period (Number.ofInt 0)
      (fun value => toNumber value "period") = .ok period ∧ period.greaterThanZero = true

variable (crates : Crates)

/-- Of serde, on the asset id. -/
def asset (value : Value) (thrown : Thrown) : Prop :=
  value ≠ .undefined ∧ value ≠ .null ∧
    ∃ reason, crates.deserializeU32 .direct value = .error reason ∧
      thrown = Wasm.invalidParams reason

/-- Of serde, when it buffers a version. -/
def buffered (value : Value) (thrown : Thrown) : Prop :=
  (∀ number, value ≠ .number number) ∧
    ∃ reason, crates.bufferValue value = .error reason ∧ thrown = Wasm.invalidParams reason

/-- Of serde, on the number that was sent for a counter. -/
def word (route : Route) (sent : Except Thrown Number) (thrown : Thrown) : Prop :=
  ∃ number reason, sent = .ok number ∧ crates.deserializeU64 route number = .error reason ∧
    thrown = Wasm.invalidParams reason

/-- Of serde, on a version. -/
def version (route : Route) (value : Value) (thrown : Thrown) : Prop :=
  ∃ reason, crates.deserializeU32 route value = .error reason ∧
    thrown = Wasm.invalidParams reason

/-- Of `parse_scheme`. -/
def scheme (name : Option Text) (thrown : Thrown) : Prop :=
  ∃ text, name = some text ∧ thrown = Wasm.unknownScheme text.toScalars ∧
    ∀ scheme : Scheme, text.toScalars ≠ scheme.name

/-- Of `parse_u128`, on the text that was sent for an amount. -/
def amount (field : String) (value : Value) (thrown : Thrown) : Prop :=
  ∃ text, toDecimal value field = .ok text ∧
    thrown = .jsError (field ++ ": invalid u128 decimal string") ∧
    ∀ word : BitVec 128, ¬Wasm.DecimalText (Wasm.trim text.toScalars) word.toNat

/-- Of `parse_h256`, on the text that was sent for a hash. -/
def hash (field : String) (value : Value) (thrown : Thrown) : Prop :=
  ∃ text, toHex value field = .ok text ∧
    (thrown = .jsError (field ++ ": invalid hex") ∧
        (∀ content, ¬Wasm.Spells text.toScalars content) ∨
      thrown = .jsError (field ++ ": expected 32 bytes") ∧
        ∃ content, Wasm.Spells text.toScalars content ∧ content.length ≠ 32)

/-- Of `parse_account_id`, on the text that was sent for the recipient. -/
def accountId (value : Value) (thrown : Thrown) : Prop :=
  ∃ text, toRecipient value = .ok text ∧
    ((∃ digits, Wasm.trim text.toScalars = '0' :: 'x' :: digits ∧
        (thrown = .jsError "recipient: invalid hex" ∧
            (∀ content, ¬Hex.IsHexOf content digits) ∨
          thrown = .jsError "recipient: expected 32 bytes" ∧
            ∃ content, Hex.IsHexOf content digits ∧ content.length ≠ 32)) ∨
      thrown = .jsError "recipient: invalid SS58 address" ∧
        (∀ digits, Wasm.trim text.toScalars ≠ '0' :: 'x' :: digits) ∧
        crates.fromSs58checkWithVersion (Wasm.trim text.toScalars) = none)

end Check

/-! ## The checks of a call -/

/-- The checks of the key source. -/
def KeySource.checks : KeySource → List (Thrown → Prop)
  | .seed value => [Check.seed value]
  | .mnemonic _ _ => []

/-- The checks of a content that come before its context is looked at. -/
def Content.checks : Content → List (Thrown → Prop)
  | .transfer params =>
      [Check.keepAlive params.keepAlive, Check.recipient params.recipient,
        Check.decimal "amount" params.amount]
  | .call value _ => [Check.bytes "call" value]

namespace CallParams

variable (crates : Crates) (route : Route) (params : CallParams)

/-- The checks of `encodeContext`. -/
def encodingChecks : List (Thrown → Prop) :=
  [Check.given params.period (Check.counter "period"), Check.anchor params,
    Check.counter "nonce" params.nonce, Check.given params.tip (Check.decimal "tip"),
    Check.given params.blockNumber (Check.counter "blockNumber"),
    Check.hex "genesisHash" params.genesisHash,
    Check.given params.blockHash (Check.hex "blockHash")]

/-- The checks of serde on a flattened context, before it reads any field. -/
def bufferChecks : Route → List (Thrown → Prop)
  | .direct => []
  | .flattened =>
      [Check.buffered crates params.specVersion, Check.buffered crates params.transactionVersion]

/-- The checks of serde on the fields of a context. -/
def fieldChecks : List (Thrown → Prop) :=
  [Check.word crates route (toNumber params.nonce "nonce"),
    Check.word crates route
      (unlessUndefined params.period (Number.ofInt 0) fun value => toNumber value "period"),
    Check.word crates route (unlessUndefined params.blockNumber (Number.ofInt 0) fun value =>
      toNumber value "blockNumber"),
    Check.version crates route params.specVersion,
    Check.version crates route params.transactionVersion]

/-- The checks of `build_sign_context`. -/
def buildingChecks (schemeName : Option Text) : List (Thrown → Prop) :=
  [Check.scheme schemeName, Check.given params.tip (Check.amount "tip"),
    Check.hash "genesisHash" params.genesisHash,
    Check.given params.blockHash (Check.hash "blockHash")]

end CallParams

namespace SigningCall

variable (crates : Crates) (call : SigningCall)

/-- The checks of serde and of the parsers in Rust. -/
def bindingChecks : List (Thrown → Prop) :=
  match call.content with
  | .transfer params =>
      [Check.asset crates params.assetId] ++
        (params.bufferChecks crates .flattened ++ params.fieldChecks crates .flattened) ++
        (params.buildingChecks (call.source.schemeName params.toCallParams) ++
          [Check.accountId crates params.recipient, Check.amount "amount" params.amount])
  | .call _ params =>
      params.bufferChecks crates .direct ++ params.fieldChecks crates .direct ++
        params.buildingChecks (call.source.schemeName params)

/-- The derivation of a mnemonic fails. -/
def Derivation (before : Host) (complaint : Thrown × Host) : Prop :=
  ∃ bytes ctx scheme mnemonic opts reason, call.build crates = .ok (bytes, ctx, scheme) ∧
    call.source = .mnemonic mnemonic opts ∧
    crates.deriveKeyFromMnemonic scheme mnemonic.toScalars (opts.passphrase.map Text.toScalars)
      (Wasm.quantusPath (indices opts (call.source.schemeName call.content.params)).1
        (indices opts (call.source.schemeName call.content.params)).2.1
        (indices opts (call.source.schemeName call.content.params)).2.2) = .error reason ∧
    complaint = (.jsError ("mnemonic derivation failed: " ++ reason), call.prepared scheme before)

/-- The platform gives no randomness. -/
def Randomness (before : Host) (complaint : Thrown × Host) : Prop :=
  ∃ bytes ctx scheme, call.build crates = .ok (bytes, ctx, scheme) ∧
    crates.getrandom before.draws = none ∧
    complaint = (.jsError "system randomness unavailable; hedged signing needs a CSPRNG",
      (call.prepared scheme before).drawn)

/-- The block number is no era boundary for the period. -/
def Boundary (before : Host) (complaint : Thrown × Host) : Prop :=
  ∃ bytes ctx scheme, call.build crates = .ok (bytes, ctx, scheme) ∧ 0 < ctx.period ∧
    ¬max 1 (roundedPeriod ctx.period.toNat / 4096) ∣ ctx.blockNumber.toNat ∧
    complaint = (.jsError
      "block_number is not an era boundary for this period; pass the era checkpoint block",
      (call.prepared scheme before).drawn)

/-- ML-DSA does not sign. -/
def Signature (before : Host) (complaint : Thrown × Host) : Prop :=
  ∃ bytes ctx scheme, ∃ (keypair : Keypair crates) (hedge : Bytes32), ∃ era checkpoint,
    call.build crates = .ok (bytes, ctx, scheme) ∧
    call.source.keypair crates call.content.params scheme = .ok keypair ∧
    crates.getrandom before.draws = some hedge ∧ resolveEra ctx = .ok (era, checkpoint) ∧
    keypair.rawSign (signedMessage crates (signingPayload bytes ctx era checkpoint))
      (some hedge) = none ∧
    complaint = (.jsError "ML-DSA signing failed", (call.prepared scheme before).drawn.signed
      (keypair.record (signedMessage crates (signingPayload bytes ctx era checkpoint))
        (some hedge)))

/-- Every check of a call, in the order of the source.  The checks of the
arguments stop it before it does anything, those of the parameters after it
noted the period. -/
def checks (before : Host) : List (Thrown × Host → Prop) :=
  (call.source.checks ++ call.content.checks).map (Action.leaving before) ++
    (call.content.params.encodingChecks ++ call.bindingChecks crates).map
      (Action.leaving (noted call.content.params.period before)) ++
    [call.Derivation crates before, call.Randomness crates before, call.Boundary crates before,
      call.Signature crates before]

end SigningCall

/-! ## Stages fail with their first complaint -/

section Stages

variable {crates : Crates} {params : CallParams} {argument : Option Text} {route : Route}
  {object : Wasm.ContextObject} {js : Wasm.JsSignContext} {thrown : Thrown}

theorem given_iff {α : Type} {value : Value} {absent : α} {convert : Value → Except Thrown α}
    {check : Value → Thrown → Prop}
    (refuses : ∀ thrown, convert value = .error thrown ↔ check value thrown) (thrown : Thrown) :
    unlessUndefined value absent convert = .error thrown ↔ Check.given value check thrown := by
  rw [unlessUndefined_eq_error_iff, refuses]
  rfl

theorem checked_source (source : KeySource) : Checked source.checks source.check := by
  cases source with
  | seed value => exact (checked_singleton fun _ => asSeed_eq_error_iff).map _
  | mnemonic mnemonic opts => exact checked_ok _

theorem checked_transferObject (params : TransferParams) :
    Checked (Content.transfer params).checks (transferObject params) := by
  intro failure
  unfold transferObject Content.checks
  split
  · rename_i keepAlive chosen
    refine Iff.trans ?_ (first_cons_of_silent fun _ complaint => complaint.2 keepAlive chosen).symm
    revert failure
    refine checked_cons_bind (fun _ => toRecipient_eq_error_iff) fun _ _ => ?_
    exact checked_cons_bind (fun _ => toDecimal_eq_error_iff) fun _ _ => checked_ok _
  · rename_i notChosen
    refine Iff.trans ?_ (first_cons_of_eq fun _ => and_iff_left notChosen).symm
    rw [Except.error.injEq, eq_comm]

theorem checked_content (content : Content) : Checked content.checks content.check := by
  cases content with
  | transfer params => exact (checked_transferObject params).map _
  | call value params => exact (checked_singleton fun _ => toBytes_eq_error_iff).map _

theorem checked_contextObject (params : CallParams) (argument : Option Text) :
    Checked params.encodingChecks (contextObject params argument) := by
  refine checked_cons_bind (given_iff fun _ => toNumber_eq_error_iff) fun period sent => ?_
  refine checked_cons_ite ?_ fun _ => ?_
  · intro thrown
    constructor
    · rintro ⟨same, missing, number, numberSent, positive⟩
      cases sent.symm.trans numberSent
      exact ⟨same, positive, missing⟩
    · rintro ⟨same, positive, missing⟩
      exact ⟨same, missing, period, sent, positive⟩
  refine checked_cons_bind (fun _ => toNumber_eq_error_iff) fun _ _ => ?_
  refine checked_cons_bind (given_iff fun _ => toDecimal_eq_error_iff) fun _ _ => ?_
  refine checked_cons_bind (given_iff fun _ => toNumber_eq_error_iff) fun _ _ => ?_
  refine checked_cons_bind (fun _ => toHex_eq_error_iff) fun _ _ => ?_
  exact checked_cons_bind
    (given_iff fun _ => map_eq_error_iff.trans toHex_eq_error_iff) fun _ _ => checked_ok _

/-! ## Deserialization -/

theorem buffered_iff (value : Value) (thrown : Thrown) :
    Wasm.bufferField crates value = .error thrown ↔ Check.buffered crates value thrown := by
  unfold Wasm.bufferField Check.buffered
  split
  · simp
  · rename_i notNumber
    rw [mapError_eq_error_iff]
    constructor
    · rintro ⟨reason, refused, rfl⟩
      exact ⟨notNumber, reason, refused, rfl⟩
    · rintro ⟨_, reason, refused, rfl⟩
      exact ⟨reason, refused, rfl⟩

theorem checked_collectFields (encodes : EncodesContext params argument object) :
    Checked (params.bufferChecks crates route) (Wasm.collectFields crates route object) := by
  cases route with
  | direct => exact checked_ok ()
  | flattened =>
      rw [CallParams.bufferChecks, ← encodes.specVersion_eq, ← encodes.transactionVersion_eq]
      exact checked_cons_bind (buffered_iff _) fun _ _ => checked_singleton (buffered_iff _)

theorem word_iff {sent : Except Thrown Number} {number : Number} (sent_eq : sent = .ok number)
    (thrown : Thrown) :
    (crates.deserializeU64 route number).mapError Wasm.invalidParams = .error thrown ↔
      Check.word crates route sent thrown := by
  rw [mapError_eq_error_iff]
  constructor
  · rintro ⟨reason, refused, rfl⟩
    exact ⟨number, reason, sent_eq, refused, rfl⟩
  · rintro ⟨other, reason, otherSent, refused, rfl⟩
    cases sent_eq.symm.trans otherSent
    exact ⟨reason, refused, rfl⟩

theorem version_iff {value sent : Value} (sent_eq : sent = value) (thrown : Thrown) :
    (crates.deserializeU32 route sent).mapError Wasm.invalidParams = .error thrown ↔
      Check.version crates route value thrown := by
  rw [mapError_eq_error_iff, sent_eq]
  constructor
  · rintro ⟨reason, refused, rfl⟩
    exact ⟨reason, refused, rfl⟩
  · rintro ⟨reason, refused, rfl⟩
    exact ⟨reason, refused, rfl⟩

theorem checked_deserializeContext (encodes : EncodesContext params argument object) :
    Checked (params.bufferChecks crates route ++ params.fieldChecks crates route)
      (Wasm.deserializeContext crates route object) := by
  refine Checked.bind (checked_collectFields encodes) fun _ _ => ?_
  refine checked_cons_bind (word_iff encodes.nonce) fun _ _ => ?_
  refine checked_cons_bind (word_iff encodes.period) fun _ _ => ?_
  refine checked_cons_bind (word_iff encodes.blockNumber) fun _ _ => ?_
  refine checked_cons_bind (version_iff encodes.specVersion_eq) fun _ _ => ?_
  exact checked_cons_bind (version_iff encodes.transactionVersion_eq) fun _ _ => checked_ok _

theorem asset_iff (value : Value) (thrown : Thrown) :
    Wasm.deserializeAssetId crates value = .error thrown ↔ Check.asset crates value thrown := by
  unfold Wasm.deserializeAssetId Check.asset
  split
  · simp
  · simp
  · rename_i given notNull
    rw [map_eq_error_iff, mapError_eq_error_iff]
    constructor
    · rintro ⟨reason, refused, rfl⟩
      exact ⟨given, notNull, reason, refused, rfl⟩
    · rintro ⟨_, _, reason, refused, rfl⟩
      exact ⟨reason, refused, rfl⟩

/-! ## Parsing -/

theorem amount_iff {field : String} {value : Value} {text : Text}
    (sent : toDecimal value field = .ok text) (thrown : Thrown) :
    Wasm.parseU128 text.toScalars field = .error thrown ↔ Check.amount field value thrown := by
  rw [Wasm.parseU128_eq_error_iff]
  constructor
  · exact fun complaint => ⟨text, sent, complaint⟩
  · rintro ⟨other, otherSent, complaint⟩
    cases sent.symm.trans otherSent
    exact complaint

theorem hash_iff {field : String} {value : Value} {text : Text}
    (sent : toHex value field = .ok text) (thrown : Thrown) :
    Wasm.parseH256 text.toScalars field = .error thrown ↔ Check.hash field value thrown := by
  rw [Wasm.parseH256_eq_error_iff]
  constructor
  · exact fun complaint => ⟨text, sent, complaint⟩
  · rintro ⟨other, otherSent, complaint⟩
    cases sent.symm.trans otherSent
    exact complaint

theorem accountId_iff {value : Value} {text : Text} (sent : toRecipient value = .ok text)
    (thrown : Thrown) :
    Wasm.parseAccountId crates text.toScalars = .error thrown ↔
      Check.accountId crates value thrown := by
  rw [Wasm.parseAccountId_eq_error_iff]
  constructor
  · exact fun complaint => ⟨text, sent, complaint⟩
  · rintro ⟨other, otherSent, complaint⟩
    cases sent.symm.trans otherSent
    exact complaint

theorem scheme_iff {name : Option Text} (thrown : Thrown) :
    Wasm.parseScheme (name.map Text.toScalars) = .error thrown ↔ Check.scheme name thrown := by
  rw [Wasm.parseScheme_eq_error_iff]
  simp only [Option.map_eq_some_iff]
  constructor
  · rintro ⟨_, ⟨text, named, rfl⟩, complaint⟩
    exact ⟨text, named, complaint⟩
  · rintro ⟨text, named, complaint⟩
    exact ⟨_, ⟨text, named, rfl⟩, complaint⟩

/-- An omitted tip is sent as a zero, which parses. -/
theorem tip_iff (encodes : EncodesContext params argument object) (thrown : Thrown) :
    Wasm.parseU128 object.tip.toScalars "tip" = .error thrown ↔
      Check.given params.tip (Check.amount "tip") thrown := by
  have sent := encodes.tip
  by_cases omitted : params.tip = .undefined
  · rw [omitted, unlessUndefined, if_pos rfl, Except.ok.injEq] at sent
    have zero : Wasm.parseU128 (Text.ofChars ['0']).toScalars "tip" = .ok 0 := rfl
    rw [← sent, zero]
    simp [Check.given, omitted]
  · rw [unlessUndefined_of_ne omitted] at sent
    rw [amount_iff sent]
    simp [Check.given, omitted]

theorem blockHash_iff (encodes : EncodesContext params argument object) (thrown : Thrown) :
    Wasm.parseOptional (List.Vector.replicate 32 0)
        (fun text => Wasm.parseH256 text "blockHash") (object.blockHash.map Text.toScalars) =
          .error thrown ↔
      Check.given params.blockHash (Check.hash "blockHash") thrown := by
  have sent := encodes.blockHash
  by_cases omitted : params.blockHash = .undefined
  · rw [omitted, unlessUndefined, if_pos rfl, Except.ok.injEq] at sent
    rw [← sent]
    simp [Check.given, omitted, Wasm.parseOptional]
  · rw [unlessUndefined_of_ne omitted, map_eq_ok_iff] at sent
    rcases sent with ⟨text, sent, object_eq⟩
    rw [← object_eq]
    refine (hash_iff sent thrown).trans ?_
    simp [Check.given, omitted]

theorem checked_buildSignContext {name : Option Text}
    (encodes : EncodesContext params argument object)
    (delivers : Wasm.DeliversContext crates route object js)
    (named : (argument <|> params.scheme) = name) :
    Checked (params.buildingChecks name) (Wasm.buildSignContext js) := by
  unfold Wasm.buildSignContext
  rw [delivers.scheme_eq, encodes.scheme_eq, named, delivers.tip_eq, delivers.genesisHash_eq,
    delivers.blockHash_eq]
  refine checked_cons_bind scheme_iff fun _ _ => ?_
  refine checked_cons_bind (tip_iff encodes) fun _ _ => ?_
  refine checked_cons_bind (hash_iff encodes.genesisHash) fun _ _ => ?_
  exact checked_cons_bind (blockHash_iff encodes) fun _ _ => checked_ok _

end Stages

/-! ## Calls -/

namespace SigningCall

variable {crates : Crates} {call : SigningCall} {before : Host}

theorem checked_build {checked : CheckedContent} (passed : call.content.check = .ok checked)
    {object : Wasm.ContextObject}
    (encoded : contextObject call.content.params
      (call.source.schemeArgument call.content.params) = .ok object) :
    Checked (call.bindingChecks crates) (checked.build crates object) := by
  have encodes := contextObject_eq_ok_iff.mp encoded
  have named := call.source.schemeArgument_orElse call.content.params
  rcases call with ⟨source, params | ⟨value, params⟩⟩
  · rcases map_eq_ok_iff.mp passed with ⟨fill, filled, rfl⟩
    obtain ⟨keepAlive, recipient, amount, _, recipientSent, amountSent, rfl⟩ :=
      transferObject_eq_ok_iff.mp filled
    refine Checked.map ?_ _
    refine Checked.bind ?_ fun p whole => ?_
    · exact checked_cons_bind (asset_iff _) fun _ _ =>
        (checked_deserializeContext encodes).bind_ok _
    · rcases bind_eq_ok_iff.mp whole with ⟨_, _, rest⟩
      rcases bind_eq_ok_iff.mp rest with ⟨js, delivered, ⟨⟩⟩
      have delivers := Wasm.deserializeContext_eq_ok_iff.mp delivered
      refine Checked.bind (checked_buildSignContext encodes delivers named) fun _ _ => ?_
      refine checked_cons_bind (accountId_iff recipientSent) fun _ _ => ?_
      exact checked_cons_bind (amount_iff amountSent) fun _ _ => checked_ok _
  · rcases map_eq_ok_iff.mp passed with ⟨bytes, _, rfl⟩
    refine Checked.map ?_ _
    refine Checked.bind (checked_deserializeContext encodes) fun js delivered => ?_
    exact checked_buildSignContext encodes (Wasm.deserializeContext_eq_ok_iff.mp delivered) named

/-! ## Keys and signatures -/

/-- Only the derivation of a mnemonic can fail to yield a key. -/
theorem keypair_eq_error_iff {params : CallParams} {source : KeySource} {scheme : Scheme}
    (passed : source.check = .ok ()) (thrown : Thrown) :
    source.keypair crates params scheme = .error thrown ↔
      ∃ mnemonic opts reason, source = .mnemonic mnemonic opts ∧
        crates.deriveKeyFromMnemonic scheme mnemonic.toScalars
          (opts.passphrase.map Text.toScalars)
          (Wasm.quantusPath (indices opts (source.schemeName params)).1
            (indices opts (source.schemeName params)).2.1
            (indices opts (source.schemeName params)).2.2) = .error reason ∧
        thrown = .jsError ("mnemonic derivation failed: " ++ reason) := by
  cases source with
  | seed value =>
      simp only [reduceCtorEq, false_and, exists_false, iff_false]
      rcases map_eq_ok_iff.mp passed with ⟨seed, given, _⟩
      obtain ⟨content, rfl, length_eq⟩ := good_of_ok (fun _ => asSeed_eq_error_iff) given
      have same : content = seed :=
        Except.ok.inj ((if_neg (not_not.mpr length_eq)).symm.trans given)
      have long : 32 ≤ seed.length := same ▸ length_eq.ge
      rw [KeySource.keypair, given]
      change ¬(Keypair.fromSeed crates seed scheme).mapError Wasm.toJsError = _
      rw [Keypair.fromSeed, dif_pos long]
      intro failed
      cases failed
  | mnemonic mnemonic opts =>
      simp only [KeySource.keypair, map_eq_error_iff, mapError_eq_error_iff,
        KeySource.mnemonic.injEq]
      constructor
      · rintro ⟨reason, failed, rfl⟩
        exact ⟨mnemonic, opts, reason, ⟨rfl, rfl⟩, failed, rfl⟩
      · rintro ⟨_, _, reason, ⟨rfl, rfl⟩, failed, rfl⟩
        exact ⟨reason, failed, rfl⟩

section Built

variable {bytes : List UInt8} {ctx : SignContext} {scheme : Scheme}

theorem checked_keypair (passed : call.source.check = .ok ())
    (built : call.build crates = .ok (bytes, ctx, scheme)) :
    Action.Checked [call.Derivation crates before]
      (Action.ofExcept (call.source.keypair crates call.content.params scheme))
      (call.prepared scheme before) := by
  intro failure reached
  rw [first_singleton_iff, Action.run_ofExcept, Prod.mk.injEq, keypair_eq_error_iff passed]
  constructor
  · rintro ⟨⟨mnemonic, opts, reason, source_eq, failed, rfl⟩, rfl⟩
    exact ⟨bytes, ctx, scheme, mnemonic, opts, reason, built, source_eq, failed, rfl⟩
  · rintro ⟨_, _, _, mnemonic, opts, reason, built', source_eq, failed, ⟨⟩⟩
    cases built.symm.trans built'
    exact ⟨⟨mnemonic, opts, reason, source_eq, failed, rfl⟩, rfl⟩

theorem randomness_iff (built : call.build crates = .ok (bytes, ctx, scheme))
    (complaint : Thrown × Host) :
    call.Randomness crates before complaint ↔ crates.getrandom before.draws = none ∧
      complaint = (.jsError "system randomness unavailable; hedged signing needs a CSPRNG",
        (call.prepared scheme before).drawn) := by
  constructor
  · rintro ⟨_, _, _, built', undrawn, rfl⟩
    cases built.symm.trans built'
    exact ⟨undrawn, rfl⟩
  · exact fun ⟨undrawn, same⟩ => ⟨bytes, ctx, scheme, built, undrawn, same⟩

theorem boundary_iff (built : call.build crates = .ok (bytes, ctx, scheme))
    (complaint : Thrown × Host) :
    call.Boundary crates before complaint ↔ resolveEra ctx = .error .invalidMortality ∧
      complaint = (.jsError
        "block_number is not an era boundary for this period; pass the era checkpoint block",
        (call.prepared scheme before).drawn) := by
  simp only [resolveEra_eq_error_iff, true_and]
  constructor
  · rintro ⟨_, _, _, built', mortal, between, rfl⟩
    cases built.symm.trans built'
    exact ⟨⟨mortal, between⟩, rfl⟩
  · exact fun ⟨⟨mortal, between⟩, same⟩ => ⟨bytes, ctx, scheme, built, mortal, between, same⟩

theorem signature_iff {keypair : Keypair crates} {hedge : Bytes32} {era : Era}
    {checkpoint : Bytes32} (built : call.build crates = .ok (bytes, ctx, scheme))
    (keyed : call.source.keypair crates call.content.params scheme = .ok keypair)
    (drawn : crates.getrandom before.draws = some hedge)
    (resolved : resolveEra ctx = .ok (era, checkpoint)) (complaint : Thrown × Host) :
    call.Signature crates before complaint ↔
      keypair.rawSign (signedMessage crates (signingPayload bytes ctx era checkpoint))
          (some hedge) = none ∧
        complaint = (.jsError "ML-DSA signing failed", (call.prepared scheme before).drawn.signed
          (keypair.record (signedMessage crates (signingPayload bytes ctx era checkpoint))
            (some hedge))) := by
  constructor
  · rintro ⟨_, _, _, _, _, _, _, built', keyed', drawn', resolved', unsigned, rfl⟩
    cases built.symm.trans built'
    cases keyed.symm.trans keyed'
    cases drawn.symm.trans drawn'
    cases resolved.symm.trans resolved'
    exact ⟨unsigned, rfl⟩
  · exact fun ⟨unsigned, same⟩ => ⟨bytes, ctx, scheme, keypair, hedge, era, checkpoint, built,
      keyed, drawn, resolved, unsigned, same⟩

theorem checked_signCallWithKeypair {keypair : Keypair crates}
    (built : call.build crates = .ok (bytes, ctx, scheme))
    (keyed : call.source.keypair crates call.content.params scheme = .ok keypair) :
    Action.Checked
      [call.Randomness crates before, call.Boundary crates before, call.Signature crates before]
      ((signCallWithKeypair keypair bytes ctx).mapError Wasm.toJsError)
      (call.prepared scheme before) := by
  intro failure reached
  rw [Action.run_mapError, run_signCallWithKeypair, draws_prepared]
  cases drawn : crates.getrandom before.draws with
  | none =>
      rw [first_cons_of_eq fun other => (randomness_iff built other).trans (and_iff_right drawn)]
      exact Action.error_mk_eq_iff
  | some hedge =>
      have random (other : Thrown × Host) : ¬call.Randomness crates before other := by
        rw [randomness_iff built, drawn]
        exact nofun
      dsimp only
      rw [first_cons_of_silent random, run_assembleExtrinsic]
      cases resolved : resolveEra ctx with
      | error refused =>
          obtain rfl := (resolveEra_eq_error_iff.mp resolved).1
          rw [first_cons_of_eq fun other => (boundary_iff built other).trans
            (and_iff_right resolved)]
          exact Action.error_mk_eq_iff
      | ok anchored =>
          rcases anchored with ⟨era, checkpoint⟩
          have aligned (other : Thrown × Host) : ¬call.Boundary crates before other := by
            rw [boundary_iff built, resolved]
            exact nofun
          rw [first_cons_of_silent aligned, first_singleton_iff,
            signature_iff built keyed drawn resolved]
          dsimp only
          cases keypair.rawSign (signedMessage crates (signingPayload bytes ctx era checkpoint))
              (some hedge) with
          | none =>
              rw [and_iff_right rfl]
              exact Action.error_mk_eq_iff
          | some signature =>
              constructor
              · exact fun returned => absurd returned nofun
              · exact fun unsigned => absurd unsigned.1 nofun

end Built

/-- A call throws exactly the first complaint among its checks, in the order of
the source, and stops in the state that comes with it. -/
theorem throws_first_complaint (crates : Crates) (call : SigningCall) (before after : Host)
    (thrown : Thrown) :
    (call.serve crates).run before = (.error thrown, after) ↔
      First (call.checks crates before) (thrown, after) := by
  rw [run_serve]
  have checked : Action.Checked (call.checks crates before) (call.pipeline crates) before := by
    simp only [checks, List.map_append, List.append_assoc]
    refine Action.checked_ofExcept_bind (checked_source _) fun _ keyPassed => ?_
    refine Action.checked_ofExcept_bind (checked_content _) fun content passed => ?_
    refine Action.checked_update_bind ?_
    refine Action.checked_ofExcept_bind (checked_contextObject _ _) fun object encoded => ?_
    refine Action.checked_ofExcept_bind (checked_build passed encoded) ?_
    rintro ⟨bytes, ctx, scheme⟩ contentBuilt
    have built : call.build crates = .ok (bytes, ctx, scheme) :=
      bind_eq_ok_iff.mpr ⟨content, passed, bind_eq_ok_iff.mpr ⟨object, encoded, contentBuilt⟩⟩
    refine Action.checked_update_bind ?_
    refine Action.Checked.bind (checked_keypair keyPassed built) fun keypair reached ran => ?_
    obtain ⟨keyed, rfl⟩ := Prod.mk.inj ran
    exact checked_signCallWithKeypair built keyed
  exact checked thrown after

end SigningCall

end QuantusWasm.Js
