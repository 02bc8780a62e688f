import QuantusWasm.Js.Pipeline
import QuantusWasm.Js.Equivalence
import QuantusWasm.Js.Amount
import QuantusWasm.Js.KeySelection

/-!
# Interchangeable calls

The convenience functions add nothing of their own.  A transfer signs what the
generic signer signs on the bytes of that transfer, and a mnemonic signs what a
seed does that yields the same key.
-/

namespace QuantusWasm

namespace Js

open Ecma Effect Ext

section Signing

variable {crates : Crates}

theorem run_signCallWithKeypair_eq_ok_iff {keypair : Keypair crates} {bytes : List UInt8}
    {ctx : SignContext} {before after : Host} {output : List UInt8} :
    (signCallWithKeypair keypair bytes ctx).run before = (.ok output, after) ↔
      ∃ hedge era checkpoint signature, crates.getrandom before.draws = some hedge ∧
        resolveEra ctx = .ok (era, checkpoint) ∧
        keypair.rawSign (signedMessage crates (signingPayload bytes ctx era checkpoint))
          (some hedge) = some signature ∧
        output = withLength (extrinsicBody keypair signature era ctx bytes) ∧
        after = before.drawn.signed (keypair.record
          (signedMessage crates (signingPayload bytes ctx era checkpoint)) (some hedge)) := by
  rw [run_signCallWithKeypair]
  cases crates.getrandom before.draws with
  | none => simp
  | some hedge =>
      simp only [run_assembleExtrinsic_eq_ok_iff, Option.some.injEq]
      constructor
      · rintro ⟨era, checkpoint, signature, rest⟩
        exact ⟨hedge, era, checkpoint, signature, rfl, rest⟩
      · rintro ⟨_, era, checkpoint, signature, rfl, rest⟩
        exact ⟨era, checkpoint, signature, rest⟩

/-- What is signed depends on the host by the next draw alone. -/
theorem exists_run_of_draws_eq {keypair : Keypair crates} {bytes : List UInt8} {ctx : SignContext}
    {before after other : Host} {output : List UInt8} (draws : other.draws = before.draws)
    (ran : (signCallWithKeypair keypair bytes ctx).run before = (.ok output, after)) :
    ∃ record, after = before.drawn.signed record ∧
      (signCallWithKeypair keypair bytes ctx).run other =
        (.ok output, other.drawn.signed record) := by
  obtain ⟨hedge, era, checkpoint, signature, drawn, resolved, made, rfl, rfl⟩ :=
    run_signCallWithKeypair_eq_ok_iff.mp ran
  exact ⟨_, rfl, run_signCallWithKeypair_eq_ok_iff.mpr
    ⟨hedge, era, checkpoint, signature, draws ▸ drawn, resolved, made, rfl, rfl⟩⟩

namespace SigningCall

/-- A call returns exactly when it builds, obtains its key and signs. -/
theorem run_serve_eq_ok_iff_built {call : SigningCall} {before after : Host}
    {output : List UInt8} :
    (call.serve crates).run before = (.ok output, after) ↔
      ∃ bytes ctx scheme keypair, call.build crates = .ok (bytes, ctx, scheme) ∧
        call.source.keypair crates call.content.params scheme = .ok keypair ∧
        (signCallWithKeypair keypair bytes ctx).run (call.prepared scheme before) =
          (.ok output, after) := by
  rw [run_serve_eq_ok_iff]
  constructor
  · rintro ⟨execution⟩
    exact ⟨_, _, _, _, build_eq_ok_iff.mpr ⟨_, _, execution.encoded, execution.delivered,
      execution.built, execution.content⟩, execution.keyed, execution.signed⟩
  · rintro ⟨bytes, ctx, scheme, keypair, built, keyed, signed⟩
    obtain ⟨object, js, encoded, delivered, builtContext, content⟩ := build_eq_ok_iff.mp built
    exact ⟨⟨object, js, ctx, scheme, bytes, keypair, encoded, delivered, builtContext, content,
      keyed, signed⟩⟩

end SigningCall

end Signing

/-! ## Transfers and calls -/

/-- serde reads a number in the same way, flattened or not. -/
structure ReadsAlike (crates : Crates) : Prop where
  u64 : ∀ number word, crates.deserializeU64 .direct number = .ok word ↔
    crates.deserializeU64 .flattened number = .ok word
  u32 : ∀ number word, crates.deserializeU32 .direct (.number number) = .ok word ↔
    crates.deserializeU32 .flattened (.number number) = .ok word

/-- The versions are numbers, as their types require. -/
def HasNumberVersions (params : CallParams) : Prop :=
  ∃ spec transaction, params.specVersion = .number spec ∧
    params.transactionVersion = .number transaction

section Transfers

variable {crates : Crates} {source : KeySource} {params : TransferParams} {bytes : List UInt8}
  {value : Value}

theorem deliversContext_iff (alike : ReadsAlike crates) {argument : Option Text}
    (versions : HasNumberVersions params.toCallParams) {object : Wasm.ContextObject}
    (encodes : EncodesContext params.toCallParams argument object) {js : Wasm.JsSignContext} :
    Wasm.deserializeContext crates .flattened object = .ok js ↔
      Wasm.deserializeContext crates .direct object = .ok js := by
  rcases versions with ⟨spec, transaction, spec_eq, transaction_eq⟩
  rw [Wasm.deserializeContext_eq_ok_iff, Wasm.deserializeContext_eq_ok_iff]
  rw [← encodes.specVersion_eq] at spec_eq
  rw [← encodes.transactionVersion_eq] at transaction_eq
  constructor
  · intro delivers
    constructor
    · rfl
    · exact delivers.scheme_eq
    · exact (alike.u64 _ _).mpr delivers.nonce
    · exact delivers.tip_eq
    · exact (alike.u64 _ _).mpr delivers.period
    · exact (alike.u64 _ _).mpr delivers.blockNumber
    · exact delivers.genesisHash_eq
    · exact delivers.blockHash_eq
    · rw [spec_eq]
      exact (alike.u32 _ _).mpr (spec_eq ▸ delivers.specVersion)
    · rw [transaction_eq]
      exact (alike.u32 _ _).mpr (transaction_eq ▸ delivers.transactionVersion)
  · intro delivers
    constructor
    · exact Wasm.collectFields_of_numbers spec_eq transaction_eq
    · exact delivers.scheme_eq
    · exact (alike.u64 _ _).mp delivers.nonce
    · exact delivers.tip_eq
    · exact (alike.u64 _ _).mp delivers.period
    · exact (alike.u64 _ _).mp delivers.blockNumber
    · exact delivers.genesisHash_eq
    · exact delivers.blockHash_eq
    · rw [spec_eq]
      exact (alike.u32 _ _).mp (spec_eq ▸ delivers.specVersion)
    · rw [transaction_eq]
      exact (alike.u32 _ _).mp (transaction_eq ▸ delivers.transactionVersion)

/-- A transfer builds what a call of its bytes builds. -/
theorem build_transfer_eq_ok_iff (alike : ReadsAlike crates)
    (versions : HasNumberVersions params.toCallParams) {ctx : SignContext}
    (encodes : (Content.transfer params).Encodes crates ctx bytes)
    (represents : RepresentsCall bytes value) {parts : List UInt8 × SignContext × Scheme} :
    SigningCall.build crates ⟨source, .transfer params⟩ = .ok parts ↔
      SigningCall.build crates ⟨source, .call value params.toCallParams⟩ = .ok parts := by
  rcases parts with ⟨built, builtCtx, scheme⟩
  rw [SigningCall.build_eq_ok_iff, SigningCall.build_eq_ok_iff]
  constructor
  · rintro ⟨object, js, encoded, delivered, builtContext, content⟩
    have bytes_eq : built = bytes := content.unique encodes.of_ctx
    have delivered := (deliversContext_iff alike versions
      (contextObject_eq_ok_iff.mp encoded)).mp delivered
    refine ⟨object, js, encoded, delivered, builtContext, ?_⟩
    rw [bytes_eq]
    exact .call (toBytes_eq_ok_iff.mpr represents)
  · rintro ⟨object, js, encoded, delivered, builtContext, content⟩
    have delivered := (deliversContext_iff alike versions
      (contextObject_eq_ok_iff.mp encoded)).mpr delivered
    cases content with
    | call given =>
        rw [(toBytes_eq_ok_iff.mp given).unique represents]
        exact ⟨object, js, encoded, delivered, builtContext, encodes.of_ctx⟩

/-- A transfer signs exactly what the generic signer signs on its bytes,
however these are represented: from every state the one returns an extrinsic
exactly when the other does, the same one, and leaves the same state. -/
theorem transfer_equals_call (alike : ReadsAlike crates)
    (versions : HasNumberVersions params.toCallParams) {ctx : SignContext}
    (encodes : (Content.transfer params).Encodes crates ctx bytes)
    (represents : RepresentsCall bytes value) (before after : Host) (output : List UInt8) :
    (SigningCall.serve crates ⟨source, .transfer params⟩).run before = (.ok output, after) ↔
      (SigningCall.serve crates ⟨source, .call value params.toCallParams⟩).run before =
        (.ok output, after) := by
  rw [SigningCall.run_serve_eq_ok_iff_built, SigningCall.run_serve_eq_ok_iff_built]
  simp only [build_transfer_eq_ok_iff alike versions encodes represents]
  rfl

end Transfers

/-! ## Seeds and mnemonics -/

section Sources

variable {crates : Crates} {first second : KeySource} {content : Content} {scheme : Scheme}

/-- What a content builds depends on its key source by the scheme it names. -/
theorem build_of_source
    (secondNamed : Wasm.parseScheme ((second.schemeName content.params).map Text.toScalars) =
      .ok scheme) {bytes : List UInt8} {ctx : SignContext} {found : Scheme}
    (built : SigningCall.build crates ⟨first, content⟩ = .ok (bytes, ctx, found)) :
    SigningCall.build crates ⟨second, content⟩ = .ok (bytes, ctx, scheme) := by
  obtain ⟨object, js, encoded, delivered, builtContext, encodes⟩ :=
    SigningCall.build_eq_ok_iff.mp built
  have fields := contextObject_eq_ok_iff.mp encoded
  have delivers := Wasm.deserializeContext_eq_ok_iff.mp delivered
  have builds := Wasm.buildSignContext_eq_ok_iff.mp builtContext
  refine SigningCall.build_eq_ok_iff.mpr
    ⟨{ object with scheme := second.schemeName content.params },
      { js with scheme := (second.schemeName content.params).map Text.toScalars },
      contextObject_eq_ok_iff.mpr ?_, Wasm.deserializeContext_eq_ok_iff.mpr ?_,
      Wasm.buildSignContext_eq_ok_iff.mpr ?_, encodes⟩
  · exact { fields with scheme_eq := (second.schemeArgument_orElse content.params).symm }
  · exact { delivers with scheme_eq := rfl }
  · exact { builds with scheme := secondNamed }

/-- A run of one source is matched by a run of another with the same key. -/
theorem exists_run_of_source {keypair : Keypair crates}
    (firstNamed : Wasm.parseScheme ((first.schemeName content.params).map Text.toScalars) =
      .ok scheme)
    (secondNamed : Wasm.parseScheme ((second.schemeName content.params).map Text.toScalars) =
      .ok scheme)
    (firstKeyed : first.keypair crates content.params scheme = .ok keypair)
    (secondKeyed : second.keypair crates content.params scheme = .ok keypair)
    {before other after : Host} (draws : other.draws = before.draws) {output : List UInt8}
    (ran : (SigningCall.serve crates ⟨first, content⟩).run before = (.ok output, after)) :
    ∃ record otherAfter, after.signatures = before.signatures ++ [record] ∧
      (SigningCall.serve crates ⟨second, content⟩).run other = (.ok output, otherAfter) ∧
      otherAfter.signatures = other.signatures ++ [record] := by
  obtain ⟨bytes, ctx, found, signer, built, keyed, signed⟩ :=
    SigningCall.run_serve_eq_ok_iff_built.mp ran
  obtain ⟨object, js, encoded, delivered, builtContext, _⟩ := SigningCall.build_eq_ok_iff.mp built
  have named := KeySource.parseScheme_of_built encoded delivered builtContext
  obtain rfl : scheme = found := Except.ok.inj (firstNamed.symm.trans named)
  obtain rfl : keypair = signer := Except.ok.inj (firstKeyed.symm.trans keyed)
  have prepared : (SigningCall.prepared ⟨second, content⟩ scheme other).draws =
      (SigningCall.prepared ⟨first, content⟩ scheme before).draws := by
    rw [SigningCall.draws_prepared, SigningCall.draws_prepared, draws]
  obtain ⟨record, rfl, otherSigned⟩ := exists_run_of_draws_eq prepared signed
  exact ⟨record, _,
    congrArg (· ++ [record]) (SigningCall.signatures_prepared ⟨first, content⟩ scheme before),
    SigningCall.run_serve_eq_ok_iff_built.mpr
      ⟨bytes, ctx, scheme, keypair, build_of_source secondNamed built, secondKeyed, otherSigned⟩,
    congrArg (· ++ [record]) (SigningCall.signatures_prepared ⟨second, content⟩ scheme other)⟩

/-- Two key sources that name one scheme and yield one key, seed or mnemonic,
are interchangeable: where the same draw comes next, the one returns an
extrinsic exactly when the other does, the same one, with the same signature
made in the same way. -/
theorem sources_interchangeable {keypair : Keypair crates}
    (firstNamed : Wasm.parseScheme ((first.schemeName content.params).map Text.toScalars) =
      .ok scheme)
    (secondNamed : Wasm.parseScheme ((second.schemeName content.params).map Text.toScalars) =
      .ok scheme)
    (firstKeyed : first.keypair crates content.params scheme = .ok keypair)
    (secondKeyed : second.keypair crates content.params scheme = .ok keypair)
    {before other : Host} (draws : other.draws = before.draws) (output : List UInt8)
    (record : SignatureRecord) :
    (∃ after, (SigningCall.serve crates ⟨first, content⟩).run before = (.ok output, after) ∧
      after.signatures = before.signatures ++ [record]) ↔
    ∃ after, (SigningCall.serve crates ⟨second, content⟩).run other = (.ok output, after) ∧
      after.signatures = other.signatures ++ [record] := by
  constructor
  · rintro ⟨after, ran, logged⟩
    obtain ⟨made, otherAfter, madeHere, otherRan, otherLogged⟩ :=
      exists_run_of_source firstNamed secondNamed firstKeyed secondKeyed draws ran
    rw [List.append_cancel_left (madeHere.symm.trans logged)] at otherLogged
    exact ⟨otherAfter, otherRan, otherLogged⟩
  · rintro ⟨after, ran, logged⟩
    obtain ⟨made, otherAfter, madeHere, otherRan, otherLogged⟩ :=
      exists_run_of_source secondNamed firstNamed secondKeyed firstKeyed draws.symm ran
    rw [List.append_cancel_left (madeHere.symm.trans logged)] at otherLogged
    exact ⟨otherAfter, otherRan, otherLogged⟩

end Sources

end Js

namespace Reference

open Ecma Effect Ext Js

theorem readsAlike : ReadsAlike crates :=
  ⟨fun _ _ => Iff.rfl, fun _ _ => Iff.rfl⟩

/-- The call bytes of the immortal transfer of nothing. -/
def transferBytes : List UInt8 :=
  encodeCall ⟨foreignAccount, 0, none, true, context⟩

/-- The immortal transfer of nothing and a call of its bytes. -/
theorem transfer_equals_call_immortal :
    ∃ output after,
      ((immortalTransfer (.string (Text.ofChars ['0'])) .undefined).serve crates).run
        Host.initial = (.ok output, after) ∧
      (SigningCall.serve crates ⟨.seed (.uint8Array (List.replicate 32 1)),
        .call (.uint8Array transferBytes)
          (callParams .undefined (.number (Number.ofInt (0 : Nat))) .undefined)⟩).run
        Host.initial = (.ok output, after) := by
  obtain ⟨output, after, ran⟩ := @exists_run_immortalTransfer _ .undefined _ _ _ _
    (parse_zero "amount").1 (parse_zero "amount").2 rfl (parse_zero "tip").2
  have recipientParsed : Wasm.parseAccountId crates
      (Text.ofChars (Wasm.hexText foreignAccount.toList)).toScalars = .ok foreignAccount := by
    rw [Text.toScalars_ofChars (Wasm.isAscii_hexText _), Wasm.parseAccountId_hexText]
  have encodes : (Content.transfer (transferParams (.string (Text.ofChars ['0'])) .undefined
      (.number (Number.ofInt (0 : Nat))) .undefined)).Encodes crates context transferBytes :=
    .transfer rfl rfl recipientParsed (parse_zero "amount").1 (parse_zero "amount").2 rfl
  exact ⟨output, after, ran, (transfer_equals_call readsAlike ⟨_, _, rfl, rfl⟩ encodes
    .bytes _ _ _).mp ran⟩

/-- Every reference key is that of its own bytes. -/
theorem keypair_seed (params : CallParams) (scheme : Scheme) (key : Bytes32) :
    (KeySource.seed (.uint8Array key.toList)).keypair crates params scheme =
      .ok ⟨scheme, key⟩ := by
  rcases key with ⟨content, length_eq⟩
  have given : asSeed (.uint8Array content) = .ok content := if_neg (not_not.mpr length_eq)
  have taken : content.take 32 = content := List.take_of_length_le length_eq.le
  have generated : Keypair.fromSeed crates content scheme = .ok ⟨scheme, ⟨content, length_eq⟩⟩ := by
    rw [Keypair.fromSeed, dif_pos length_eq.ge]
    simp only [taken]
    rfl
  change (asSeed (.uint8Array content) >>= fun seed =>
    (Keypair.fromSeed crates seed scheme).mapError Wasm.toJsError) = _
  rw [given]
  exact congrArg (Except.mapError Wasm.toJsError) generated

/-- A mnemonic call and a call with the seed of its key. -/
theorem sources_interchangeable_mnemonic :
    ∃ seed output after otherAfter record,
      (SigningCall.serve crates ⟨.mnemonic [] (schemeOptions .mlDsa87), immortalCall⟩).run
        Host.initial = (.ok output, after) ∧
      after.signatures = [record] ∧
      (SigningCall.serve crates ⟨.seed (.uint8Array seed), immortalCall⟩).run
        Host.initial = (.ok output, otherAfter) ∧
      otherAfter.signatures = [record] := by
  have keyed : ∃ key : Bytes32, (KeySource.mnemonic [] (schemeOptions .mlDsa87)).keypair crates
      immortalCall.params .mlDsa87 = .ok ⟨.mlDsa87, key⟩ := ⟨_, rfl⟩
  rcases keyed with ⟨key, keyed⟩
  obtain ⟨output, after, ran⟩ := @exists_run_immortalCall
    (.mnemonic [] (schemeOptions .mlDsa87)) .mlDsa87 _ Host.initial rfl keyed (by decide)
  obtain ⟨record, _, logged, _, _⟩ := @exists_run_of_source crates _
    (.seed (.uint8Array key.toList)) _ .mlDsa87 _ rfl rfl keyed (keypair_seed _ _ key) _
    Host.initial _ rfl _ ran
  obtain ⟨otherAfter, otherRan, otherLogged⟩ := (@sources_interchangeable crates
    (.mnemonic [] (schemeOptions .mlDsa87)) (.seed (.uint8Array key.toList)) immortalCall
    .mlDsa87 _ rfl rfl keyed (keypair_seed _ _ key) Host.initial Host.initial rfl
    output record).mp ⟨after, ran, logged⟩
  exact ⟨_, output, after, otherAfter, record, ran, logged, otherRan, otherLogged⟩

end Reference

end QuantusWasm
