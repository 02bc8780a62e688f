import QuantusWasm.Js.Signing

/-!
# From parameters to the signing context

A context passes three stages on its way to the signer: the TypeScript layer
encodes it, serde delivers it, and the bindings build it.  Each stage succeeds
exactly when each of its fields does, and an execution of a signing call
carries the three facts for every field.
-/

namespace QuantusWasm

open Ecma Effect Ext

namespace Js

/-- The check that `toNumber` makes. -/
private theorem checked_eq_ok_iff {given number : Number} {failure : Thrown} :
    (if !given.isInteger || given.lessThanZero then (.error failure : Except Thrown Number)
      else .ok given) = .ok number ↔
      given = number ∧ number.isInteger = true ∧ number.lessThanZero = false := by
  by_cases rejected : (!given.isInteger || given.lessThanZero) = true
  · rw [if_pos rejected]
    simp only [reduceCtorEq, false_iff]
    rintro ⟨rfl, integral, nonneg⟩
    simp [integral, nonneg] at rejected
  · rw [if_neg rejected, Except.ok.injEq]
    simp only [Bool.or_eq_true, Bool.not_eq_true', not_or, Bool.not_eq_false,
      Bool.not_eq_true] at rejected
    constructor
    · rintro rfl
      exact ⟨rfl, rejected⟩
    · exact And.left

/-- A nonnegative integer is taken as it is, a bigint as the nearest number. -/
theorem toNumber_eq_ok_iff {value : Value} {field : String} {number : Number} :
    toNumber value field = .ok number ↔
      (value = .number number ∨
        ∃ integer, value = .bigint integer ∧ Number.ofInt integer = number) ∧
        number.isInteger = true ∧ number.lessThanZero = false := by
  cases value with
  | number given =>
      simp only [toNumber, checked_eq_ok_iff, Value.number.injEq, reduceCtorEq, false_and,
        exists_false, or_false]
  | bigint integer =>
      simp only [toNumber, checked_eq_ok_iff, reduceCtorEq, false_or, Value.bigint.injEq]
      simp
  | undefined => simp [toNumber]
  | null => simp [toNumber]
  | boolean value => simp [toNumber]
  | string value => simp [toNumber]
  | uint8Array value => simp [toNumber]
  | other => simp [toNumber]

theorem unlessUndefined_of_ne {α : Type} {value : Value} (given : value ≠ .undefined) (absent : α)
    (convert : Value → Except Thrown α) : unlessUndefined value absent convert = convert value :=
  if_neg given

/-- The fields of an encoded context, each from its own parameter. -/
structure EncodesContext (params : CallParams) (scheme : Option Text)
    (object : Wasm.ContextObject) : Prop where
  scheme_eq : object.scheme = (scheme <|> params.scheme)
  period : unlessUndefined params.period (Number.ofInt 0)
    (fun value => toNumber value "period") = .ok object.period
  anchored : ¬(object.period.greaterThanZero = true ∧ params.blockHash = .undefined)
  nonce : toNumber params.nonce "nonce" = .ok object.nonce
  tip : unlessUndefined params.tip (Text.ofChars ['0'])
    (fun value => toDecimal value "tip") = .ok object.tip
  blockNumber : unlessUndefined params.blockNumber (Number.ofInt 0)
    (fun value => toNumber value "blockNumber") = .ok object.blockNumber
  genesisHash : toHex params.genesisHash "genesisHash" = .ok object.genesisHash
  blockHash : unlessUndefined params.blockHash none
    (fun value => (toHex value "blockHash").map some) = .ok object.blockHash
  specVersion_eq : object.specVersion = params.specVersion
  transactionVersion_eq : object.transactionVersion = params.transactionVersion

theorem contextObject_eq_ok_iff {params : CallParams} {scheme : Option Text}
    {object : Wasm.ContextObject} :
    contextObject params scheme = .ok object ↔ EncodesContext params scheme object := by
  unfold contextObject
  simp only [bind_eq_ok_iff]
  constructor
  · rintro ⟨period, periodGiven, encoded⟩
    split_ifs at encoded with unanchored
    simp only [bind_eq_ok_iff] at encoded
    rcases encoded with
      ⟨nonce, nonceGiven, tip, tipGiven, blockNumber, blockNumberGiven, genesisHash, genesisGiven,
      blockHash, blockHashGiven, result⟩
    cases result
    exact ⟨rfl, periodGiven, unanchored, nonceGiven, tipGiven, blockNumberGiven, genesisGiven,
      blockHashGiven, rfl, rfl⟩
  · intro encodes
    refine ⟨object.period, encodes.period, ?_⟩
    rw [if_neg encodes.anchored]
    simp only [bind_eq_ok_iff]
    refine ⟨_, encodes.nonce, _, encodes.tip, _, encodes.blockNumber, _, encodes.genesisHash, _,
      encodes.blockHash, ?_⟩
    rw [← encodes.scheme_eq, ← encodes.specVersion_eq, ← encodes.transactionVersion_eq]
    rfl

end Js

namespace Wasm

/-- The fields of a delivered context. -/
structure DeliversContext (crates : Crates) (route : Route) (object : ContextObject)
    (js : JsSignContext) : Prop where
  collected : collectFields crates route object = .ok ()
  scheme_eq : js.scheme = object.scheme.map Text.toScalars
  nonce : crates.deserializeU64 route object.nonce = .ok js.nonce
  tip_eq : js.tip = some object.tip.toScalars
  period : crates.deserializeU64 route object.period = .ok js.period
  blockNumber : crates.deserializeU64 route object.blockNumber = .ok js.blockNumber
  genesisHash_eq : js.genesisHash = object.genesisHash.toScalars
  blockHash_eq : js.blockHash = object.blockHash.map Text.toScalars
  specVersion : crates.deserializeU32 route object.specVersion = .ok js.specVersion
  transactionVersion :
    crates.deserializeU32 route object.transactionVersion = .ok js.transactionVersion

/-- Versions that are numbers are always collected. -/
theorem collectFields_of_numbers {crates : Crates} {route : Route} {object : ContextObject}
    {spec transaction : Number} (spec_eq : object.specVersion = .number spec)
    (transaction_eq : object.transactionVersion = .number transaction) :
    collectFields crates route object = .ok () := by
  cases route with
  | direct => rfl
  | flattened =>
      rw [collectFields, spec_eq, transaction_eq]
      rfl

theorem deserializeContext_eq_ok_iff {crates : Crates} {route : Route} {object : ContextObject}
    {js : JsSignContext} :
    deserializeContext crates route object = .ok js ↔ DeliversContext crates route object js := by
  unfold deserializeContext
  simp only [bind_eq_ok_iff, mapError_eq_ok_iff]
  constructor
  · rintro ⟨_, collected, nonce, nonceRead, period, periodRead, blockNumber, blockNumberRead,
      specVersion, specRead, transactionVersion, transactionRead, ⟨⟩⟩
    exact ⟨collected, rfl, nonceRead, rfl, periodRead, blockNumberRead, rfl, rfl, specRead,
      transactionRead⟩
  · intro delivers
    refine ⟨_, delivers.collected, _, delivers.nonce, _, delivers.period, _,
      delivers.blockNumber, _, delivers.specVersion, _, delivers.transactionVersion, ?_⟩
    rw [← delivers.scheme_eq, ← delivers.tip_eq, ← delivers.genesisHash_eq,
      ← delivers.blockHash_eq]
    rfl

/-- The fields of a built context. -/
structure BuildsContext (js : JsSignContext) (ctx : SignContext) (scheme : Scheme) : Prop where
  scheme : parseScheme js.scheme = .ok scheme
  nonce_eq : ctx.nonce = js.nonce
  tip : parseOptional 0 (fun text => parseU128 text "tip") js.tip = .ok ctx.tip
  period_eq : ctx.period = js.period
  blockNumber_eq : ctx.blockNumber = js.blockNumber
  genesisHash : parseH256 js.genesisHash "genesisHash" = .ok ctx.genesisHash
  blockHash : parseOptional (List.Vector.replicate 32 0)
    (fun text => parseH256 text "blockHash") js.blockHash = .ok ctx.blockHash
  specVersion_eq : ctx.specVersion = js.specVersion
  transactionVersion_eq : ctx.transactionVersion = js.transactionVersion

theorem buildSignContext_eq_ok_iff {js : JsSignContext} {ctx : SignContext} {scheme : Scheme} :
    buildSignContext js = .ok (ctx, scheme) ↔ BuildsContext js ctx scheme := by
  unfold buildSignContext
  simp only [bind_eq_ok_iff]
  constructor
  · rintro ⟨found, schemeParsed, tip, tipParsed, genesisHash, genesisParsed, blockHash,
      blockHashParsed, ⟨⟩⟩
    exact ⟨schemeParsed, rfl, tipParsed, rfl, rfl, genesisParsed, blockHashParsed, rfl, rfl⟩
  · intro builds
    refine ⟨_, builds.scheme, _, builds.tip, _, builds.genesisHash, _, builds.blockHash, ?_⟩
    rw [← builds.nonce_eq, ← builds.period_eq, ← builds.blockNumber_eq, ← builds.specVersion_eq,
      ← builds.transactionVersion_eq]
    rfl

end Wasm

/-- The scheme name that selects the key passes all three stages. -/
theorem Js.KeySource.parseScheme_of_built {crates : Crates} {source : Js.KeySource} {route : Route}
    {params : Js.CallParams} {object : Wasm.ContextObject} {js : Wasm.JsSignContext}
    {ctx : SignContext} {scheme : Scheme}
    (encoded : Js.contextObject params (source.schemeArgument params) = .ok object)
    (delivered : Wasm.deserializeContext crates route object = .ok js)
    (built : Wasm.buildSignContext js = .ok (ctx, scheme)) :
    Wasm.parseScheme ((source.schemeName params).map Text.toScalars) = .ok scheme := by
  have encodes := Js.contextObject_eq_ok_iff.mp encoded
  have delivers := Wasm.deserializeContext_eq_ok_iff.mp delivered
  have builds := Wasm.buildSignContext_eq_ok_iff.mp built
  rw [← source.schemeArgument_orElse, ← encodes.scheme_eq, ← delivers.scheme_eq]
  exact builds.scheme

namespace Js.SigningCall.Execution

variable {crates : Crates} {call : SigningCall} {before after : Host} {output : List UInt8}

theorem encodes (execution : Execution crates call before output after) :
    EncodesContext call.content.params (call.source.schemeArgument call.content.params)
      execution.object :=
  contextObject_eq_ok_iff.mp execution.encoded

theorem delivers (execution : Execution crates call before output after) :
    Wasm.DeliversContext crates call.content.route execution.object execution.js :=
  Wasm.deserializeContext_eq_ok_iff.mp execution.delivered

theorem builds (execution : Execution crates call before output after) :
    Wasm.BuildsContext execution.js execution.ctx execution.scheme :=
  Wasm.buildSignContext_eq_ok_iff.mp execution.built

/-- The wire scheme is the one the scheme names select. -/
theorem parseScheme_eq (execution : Execution crates call before output after) :
    Wasm.parseScheme ((call.source.schemeName call.content.params).map Text.toScalars) =
      .ok execution.scheme :=
  KeySource.parseScheme_of_built execution.encoded execution.delivered execution.built

end Js.SigningCall.Execution

end QuantusWasm
