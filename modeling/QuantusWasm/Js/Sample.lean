import QuantusWasm.Js.Context
import QuantusWasm.Reference
import QuantusWasm.Runtime.Mortality

/-!
# Calls on the reference host

Parameters as an application would pass them, open in the fields that results
about single fields vary.  On the reference host a call with such parameters
returns as soon as the open fields are accepted.
-/

namespace QuantusWasm.Reference

open Ecma Effect Ext Js

/-- Context parameters with tip, period and block number left open. -/
def callParams (tip period blockNumber : Value) : CallParams where
  scheme := none
  nonce := .number (Number.ofInt (7 : Nat))
  tip := tip
  period := period
  blockNumber := blockNumber
  genesisHash := .uint8Array context.genesisHash.toList
  blockHash := .uint8Array context.blockHash.toList
  specVersion := .number (Number.ofInt (100 : Nat))
  transactionVersion := .number (Number.ofInt (1 : Nat))

/-- Transfer parameters with the amount left open as well. -/
def transferParams (amount tip period blockNumber : Value) : Js.TransferParams where
  toCallParams := callParams tip period blockNumber
  recipient := .uint8Array foreignAccount.toList
  amount := amount
  assetId := .undefined
  keepAlive := .boolean true

/-- The context that such parameters build. -/
def contextOf (tip : BitVec 128) (period blockNumber : Nat) : SignContext :=
  { context with
    tip := tip
    period := UInt64.ofNat period
    blockNumber := UInt64.ofNat blockNumber }

/-! ## Numbers pass -/

theorem toNumber_ofInt {natural : Nat} (small : natural < 2 ^ 53) (field : String) :
    toNumber (.number (Number.ofInt natural)) field = .ok (Number.ofInt natural) := by
  have known := Number.integer?_ofInt_natCast small
  have integral : (Number.ofInt (natural : Int)).isInteger = true :=
    Number.isInteger_iff.mpr ⟨_, known⟩
  have nonneg : (Number.ofInt (natural : Int)).lessThanZero = false := by
    rw [Bool.eq_false_iff]
    exact fun negative => absurd ((Number.lessThanZero_iff known).mp negative) (by simp)
  simp [toNumber, integral, nonneg]

/-- So does a counter that may be omitted. -/
theorem counter_ofInt {natural : Nat} (small : natural < 2 ^ 53) (field : String) :
    unlessUndefined (.number (Number.ofInt natural)) (Number.ofInt 0)
      (fun value => toNumber value field) = .ok (Number.ofInt natural) :=
  (unlessUndefined_of_ne Value.noConfusion _ _).trans (toNumber_ofInt small field)

theorem parse_zero (field : String) :
    toDecimal (.string (Text.ofChars ['0'])) field = .ok (Text.ofChars ['0']) ∧
      Wasm.parseU128 (Text.ofChars ['0']).toScalars field = .ok 0 :=
  ⟨rfl, rfl⟩

theorem deserializeU64_ofInt {natural : Nat} (small : natural < 2 ^ 53) (route : Route) :
    crates.deserializeU64 route (Number.ofInt natural) = .ok (UInt64.ofNat natural) := by
  have known := Number.integer?_ofInt_natCast small
  have safe : (Number.ofInt (natural : Int)).isSafeInteger = true :=
    Number.isSafeInteger_iff.mpr ⟨_, known, by simpa using small⟩
  simp [crates, deserializeU64, known, safe]

theorem deserializeU32_ofInt {natural : Nat} (small : natural < 2 ^ 32) (route : Route) :
    crates.deserializeU32 route (.number (Number.ofInt natural)) = .ok (UInt32.ofNat natural) := by
  have known := Number.integer?_ofInt_natCast (lt_trans small (by decide : 2 ^ 32 < 2 ^ 53))
  have fits : (natural : Int) < 2 ^ 32 := by exact_mod_cast small
  have range : 0 ≤ (natural : Int) ∧ (natural : Int) < 2 ^ 32 := ⟨Int.natCast_nonneg _, fits⟩
  simp only [crates, deserializeU32, Value.integer?, known, if_pos range, Int.toNat_natCast]

/-! ## Calls return -/

/-- What `encodeContext` makes of the parameters. -/
def objectOf (argument : Option Text) (tip : Text) (period blockNumber : Nat) :
    Wasm.ContextObject where
  scheme := argument <|> none
  nonce := Number.ofInt (7 : Nat)
  tip := tip
  period := Number.ofInt period
  blockNumber := Number.ofInt blockNumber
  genesisHash := Text.ofChars (Wasm.hexText context.genesisHash.toList)
  blockHash := some (Text.ofChars (Wasm.hexText context.blockHash.toList))
  specVersion := .number (Number.ofInt (100 : Nat))
  transactionVersion := .number (Number.ofInt (1 : Nat))

/-- And what serde delivers of that. -/
def deliveredOf (argument : Option Text) (tip : Text) (period blockNumber : Nat) :
    Wasm.JsSignContext where
  scheme := (argument <|> none).map Text.toScalars
  nonce := 7
  tip := some tip.toScalars
  period := UInt64.ofNat period
  blockNumber := UInt64.ofNat blockNumber
  genesisHash := (Text.ofChars (Wasm.hexText context.genesisHash.toList)).toScalars
  blockHash := some (Text.ofChars (Wasm.hexText context.blockHash.toList)).toScalars
  specVersion := 100
  transactionVersion := 1

section Stages

variable {tip periodGiven blockGiven : Value} {tipText : Text} {tipValue : BitVec 128}
  {period blockNumber : Nat} {argument : Option Text} {scheme : Scheme}

theorem contextObject_callParams
    (tipGiven : unlessUndefined tip (Text.ofChars ['0']) (fun value => toDecimal value "tip") =
      .ok tipText)
    (periodEncoded : unlessUndefined periodGiven (Number.ofInt 0)
      (fun value => toNumber value "period") = .ok (Number.ofInt period))
    (blockEncoded : unlessUndefined blockGiven (Number.ofInt 0)
      (fun value => toNumber value "blockNumber") = .ok (Number.ofInt blockNumber)) :
    contextObject (callParams tip periodGiven blockGiven) argument =
      .ok (objectOf argument tipText period blockNumber) := by
  rw [contextObject_eq_ok_iff]
  constructor
  · rfl
  · exact periodEncoded
  · exact fun both => Value.noConfusion both.2
  · exact @toNumber_ofInt 7 (by decide) _
  · exact tipGiven
  · exact blockEncoded
  · rfl
  · exact unlessUndefined_of_ne (by simp [callParams]) _ _
  · rfl
  · rfl

theorem deserializeContext_objectOf (period_small : period < 2 ^ 53)
    (block_small : blockNumber < 2 ^ 53) (route : Route) :
    Wasm.deserializeContext crates route (objectOf argument tipText period blockNumber) =
      .ok (deliveredOf argument tipText period blockNumber) := by
  rw [Wasm.deserializeContext_eq_ok_iff]
  constructor
  · exact Wasm.collectFields_of_numbers rfl rfl
  · rfl
  · exact @deserializeU64_ofInt 7 (by decide) route
  · rfl
  · exact deserializeU64_ofInt period_small route
  · exact deserializeU64_ofInt block_small route
  · rfl
  · rfl
  · exact @deserializeU32_ofInt 100 (by decide) route
  · exact @deserializeU32_ofInt 1 (by decide) route

theorem buildSignContext_deliveredOf
    (parsed : Wasm.parseScheme ((argument <|> none).map Text.toScalars) = .ok scheme)
    (tipParsed : Wasm.parseU128 tipText.toScalars "tip" = .ok tipValue) :
    Wasm.buildSignContext (deliveredOf argument tipText period blockNumber) =
      .ok (contextOf tipValue period blockNumber, scheme) := by
  have hash_eq : ∀ (hash : Bytes32) field,
      Wasm.parseH256 (Text.ofChars (Wasm.hexText hash.toList)).toScalars field = .ok hash := by
    intro hash field
    rw [Text.toScalars_ofChars (Wasm.isAscii_hexText _), Wasm.parseH256_hexText]
  rw [Wasm.buildSignContext_eq_ok_iff]
  constructor
  · exact parsed
  · rfl
  · exact tipParsed
  · rfl
  · rfl
  · exact hash_eq context.genesisHash "genesisHash"
  · exact hash_eq context.blockHash "blockHash"
  · rfl
  · rfl

/-- A call with such parameters returns once its content and its key are there
and its era resolves. -/
theorem exists_run_serve {call : SigningCall} {bytes : List UInt8} {keypair : Keypair crates}
    {era : Era} {checkpoint : Bytes32} {host : Host}
    (params_eq : call.content.params = callParams tip periodGiven blockGiven)
    (period_small : period < 2 ^ 53) (block_small : blockNumber < 2 ^ 53)
    (tipGiven : unlessUndefined tip (Text.ofChars ['0']) (fun value => toDecimal value "tip") =
      .ok tipText)
    (tipParsed : Wasm.parseU128 tipText.toScalars "tip" = .ok tipValue)
    (periodEncoded : unlessUndefined periodGiven (Number.ofInt 0)
      (fun value => toNumber value "period") = .ok (Number.ofInt period))
    (blockEncoded : unlessUndefined blockGiven (Number.ofInt 0)
      (fun value => toNumber value "blockNumber") = .ok (Number.ofInt blockNumber))
    (parsed : Wasm.parseScheme
      ((call.source.schemeName call.content.params).map Text.toScalars) = .ok scheme)
    (content : call.content.Encodes crates (contextOf tipValue period blockNumber) bytes)
    (keyed : call.source.keypair crates call.content.params scheme = .ok keypair)
    (resolved : resolveEra (contextOf tipValue period blockNumber) = .ok (era, checkpoint))
    (few : host.draws < 256 ^ 32) :
    ∃ output after, (call.serve crates).run host = (.ok output, after) := by
  have argument_eq : (call.source.schemeArgument call.content.params <|> none) =
      call.source.schemeName call.content.params := by
    rw [← KeySource.schemeArgument_orElse, params_eq]
    rfl
  have draws_eq : (call.source.derive call.content.params scheme
      (noted call.content.params.period host)).draws = host.draws := by
    cases call.source <;> simp only [KeySource.derive, noted] <;> split_ifs <;> rfl
  obtain ⟨output, after, signed⟩ := exists_run_signCallWithKeypair resolved keypair bytes
    (draws_eq ▸ few)
  refine ⟨output, after, SigningCall.run_serve_eq_ok_iff.mpr ⟨{
    object := objectOf (call.source.schemeArgument call.content.params) tipText period blockNumber
    js := deliveredOf (call.source.schemeArgument call.content.params) tipText period blockNumber
    ctx := contextOf tipValue period blockNumber
    scheme := scheme
    bytes := bytes
    keypair := keypair
    encoded := ?_
    delivered := deserializeContext_objectOf period_small block_small _
    built := buildSignContext_deliveredOf (argument_eq ▸ parsed) tipParsed
    content := content
    keyed := keyed
    signed := signed }⟩⟩
  rw [params_eq]
  exact contextObject_callParams tipGiven periodEncoded blockEncoded

/-- So does a call of the generic signer without a tip. -/
theorem exists_run_call {source : KeySource} {keypair : Keypair crates} {era : Era}
    {checkpoint : Bytes32} {host : Host} (period_small : period < 2 ^ 53)
    (block_small : blockNumber < 2 ^ 53)
    (periodEncoded : unlessUndefined periodGiven (Number.ofInt 0)
      (fun value => toNumber value "period") = .ok (Number.ofInt period))
    (blockEncoded : unlessUndefined blockGiven (Number.ofInt 0)
      (fun value => toNumber value "blockNumber") = .ok (Number.ofInt blockNumber))
    (parsed : Wasm.parseScheme ((source.schemeName
      (callParams .undefined periodGiven blockGiven)).map Text.toScalars) = .ok scheme)
    (keyed : source.keypair crates (callParams .undefined periodGiven blockGiven) scheme =
      .ok keypair)
    (resolved : resolveEra (contextOf 0 period blockNumber) = .ok (era, checkpoint))
    (few : host.draws < 256 ^ 32) :
    ∃ output after, (SigningCall.serve crates
      ⟨source, .call (.uint8Array [2, 3]) (callParams .undefined periodGiven blockGiven)⟩).run
        host = (.ok output, after) := by
  apply @exists_run_serve .undefined periodGiven blockGiven _ 0 period blockNumber scheme
    ⟨source, .call (.uint8Array [2, 3]) (callParams .undefined periodGiven blockGiven)⟩
  · rfl
  · exact period_small
  · exact block_small
  · rfl
  · exact (parse_zero "tip").2
  · exact periodEncoded
  · exact blockEncoded
  · exact parsed
  · exact .call rfl
  · exact keyed
  · exact resolved
  · exact few

end Stages

/-- An immortal call without a scheme name of its own. -/
def immortalCall : Content :=
  .call (.uint8Array [2, 3]) (callParams .undefined (.number (Number.ofInt (0 : Nat))) .undefined)

/-- It returns for every source that yields a key. -/
theorem exists_run_immortalCall {source : KeySource} {scheme : Scheme} {keypair : Keypair crates}
    {host : Host}
    (parsed : Wasm.parseScheme ((source.schemeName immortalCall.params).map Text.toScalars) =
      .ok scheme)
    (keyed : source.keypair crates immortalCall.params scheme = .ok keypair)
    (few : host.draws < 256 ^ 32) :
    ∃ output after, (SigningCall.serve crates ⟨source, immortalCall⟩).run host =
      (.ok output, after) := by
  have immortal : (contextOf 0 0 0).period = 0 := rfl
  exact @exists_run_call _ .undefined 0 0 scheme source keypair _ _ host (by decide) (by decide)
    (counter_ofInt (by decide) "period") rfl parsed keyed (resolveEra_immortal immortal) few

end QuantusWasm.Reference
