import QuantusWasm.Js.Representation
import QuantusWasm.Js.Sample

/-!
# Calls of one meaning

Two signing calls mean the same when they differ in how their hashes and their
call bytes are represented and in nothing else.  They build one context and
sign one message, so one returns exactly when the other does, and whatever they
return differs in the signature only.
-/

namespace QuantusWasm

namespace Js

open Ecma Effect Ext

/-! ## Values -/

/-- Equal values, or two representations of one hash. -/
def SameHash (first second : Value) : Prop :=
  first = second ∨ ∃ hash, RepresentsHash hash first ∧ RepresentsHash hash second

/-- Equal values, or two representations of one call. -/
def SameBytes (first second : Value) : Prop :=
  first = second ∨ ∃ bytes, RepresentsCall bytes first ∧ RepresentsCall bytes second

namespace SameHash

variable {first second : Value} {hash : Bytes32}

theorem symm (same : SameHash first second) : SameHash second first := by
  rcases same with rfl | ⟨hash, isFirst, isSecond⟩
  · exact .inl rfl
  · exact .inr ⟨hash, isSecond, isFirst⟩

theorem represents (same : SameHash first second) (isHash : RepresentsHash hash first) :
    RepresentsHash hash second := by
  rcases same with rfl | ⟨common, isFirst, isSecond⟩
  · exact isHash
  · rw [isHash.unique isFirst]
    exact isSecond

theorem eq_undefined (same : SameHash first second) (omitted : first = .undefined) :
    second = .undefined := by
  rcases same with rfl | ⟨common, isFirst, _⟩
  · exact omitted
  · rw [omitted] at isFirst
    contradiction

theorem representsBlockHash (same : SameHash first second)
    (isHash : RepresentsBlockHash hash first) : RepresentsBlockHash hash second := by
  by_cases omitted : first = .undefined
  · rw [same.eq_undefined omitted]
    rwa [omitted] at isHash
  · have given : second ≠ .undefined := fun absent => omitted (same.symm.eq_undefined absent)
    rw [RepresentsBlockHash, if_neg omitted] at isHash
    rw [RepresentsBlockHash, if_neg given]
    exact same.represents isHash

end SameHash

namespace SameBytes

variable {first second : Value}

theorem symm (same : SameBytes first second) : SameBytes second first := by
  rcases same with rfl | ⟨bytes, isFirst, isSecond⟩
  · exact .inl rfl
  · exact .inr ⟨bytes, isSecond, isFirst⟩

theorem represents (same : SameBytes first second) {bytes : List UInt8}
    (isCall : RepresentsCall bytes first) : RepresentsCall bytes second := by
  rcases same with rfl | ⟨common, isFirst, isSecond⟩
  · exact isCall
  · rw [isCall.unique isFirst]
    exact isSecond

end SameBytes

/-! ## Parameters -/

/-- The parameters with other hashes. -/
def CallParams.withHashes (params : CallParams) (genesisHash blockHash : Value) : CallParams :=
  { params with genesisHash := genesisHash, blockHash := blockHash }

/-- Where the stages build a context, they build the same one with whatever other
hashes are represented. -/
theorem exists_stages_withHashes {crates : Crates} {params : CallParams} {argument : Option Text}
    {route : Route} {object : Wasm.ContextObject} {js : Wasm.JsSignContext} {ctx : SignContext}
    {scheme : Scheme} (encodes : EncodesContext params argument object)
    (delivers : Wasm.DeliversContext crates route object js)
    (builds : Wasm.BuildsContext js ctx scheme) {genesisHash blockHash : Value}
    {genesis block : Bytes32} (isGenesis : RepresentsHash genesis genesisHash)
    (isBlock : RepresentsBlockHash block blockHash)
    (omitted : blockHash = .undefined → params.blockHash = .undefined) :
    ∃ object js, EncodesContext (params.withHashes genesisHash blockHash) argument object ∧
      Wasm.DeliversContext crates route object js ∧
      Wasm.BuildsContext js { ctx with genesisHash := genesis, blockHash := block } scheme := by
  obtain ⟨genesisText, genesisGiven, genesisParsed⟩ :=
    (@parseH256_toHex_iff _ "genesisHash" _).mpr isGenesis
  obtain ⟨blockText, blockGiven, blockParsed⟩ := parseOptional_blockHash_iff.mpr isBlock
  refine ⟨{ object with genesisHash := genesisText, blockHash := blockText },
    { js with genesisHash := genesisText.toScalars,
              blockHash := blockText.map Text.toScalars }, ?_, ?_, ?_⟩
  · exact { encodes with
      anchored := fun both => encodes.anchored ⟨both.1, omitted both.2⟩
      genesisHash := genesisGiven
      blockHash := blockGiven }
  · exact { delivers with
      genesisHash_eq := rfl
      blockHash_eq := rfl }
  · exact { builds with
      genesisHash := genesisParsed
      blockHash := blockParsed }

/-- Parameters that differ in the representation of their hashes only. -/
inductive SameParams (params : CallParams) : CallParams → Prop
  | intro {genesisHash blockHash : Value} (genesis : SameHash params.genesisHash genesisHash)
      (block : SameHash params.blockHash blockHash) :
      SameParams params { params with genesisHash := genesisHash, blockHash := blockHash }

namespace SameParams

variable {crates : Crates} {params other : CallParams}

theorem symm (same : SameParams params other) : SameParams other params := by
  cases same with
  | intro genesis block => exact .intro genesis.symm block.symm

theorem schemeArgument_eq (same : SameParams params other) (source : KeySource) :
    source.schemeArgument other = source.schemeArgument params := by
  cases same
  cases source <;> rfl

theorem keypair_eq (same : SameParams params other) (source : KeySource) (scheme : Scheme) :
    source.keypair crates other scheme = source.keypair crates params scheme := by
  cases same
  cases source <;> rfl

theorem derive_eq (same : SameParams params other) (source : KeySource) (scheme : Scheme)
    (host : Host) :
    source.derive other scheme (noted other.period host) =
      source.derive params scheme (noted params.period host) := by
  cases same
  cases source <;> rfl

/-- The stages build one context from both. -/
theorem exists_stages (same : SameParams params other) {argument : Option Text} {route : Route}
    {object : Wasm.ContextObject} {js : Wasm.JsSignContext} {ctx : SignContext} {scheme : Scheme}
    (encodes : EncodesContext params argument object)
    (delivers : Wasm.DeliversContext crates route object js)
    (builds : Wasm.BuildsContext js ctx scheme) :
    ∃ object js, EncodesContext other argument object ∧
      Wasm.DeliversContext crates route object js ∧ Wasm.BuildsContext js ctx scheme := by
  obtain ⟨isGenesis, isBlock⟩ := representsHash_of_stages encodes delivers builds
  cases same with
  | intro genesis block =>
      exact exists_stages_withHashes encodes delivers builds (genesis.represents isGenesis)
        (block.representsBlockHash isBlock) block.symm.eq_undefined

end SameParams

/-! ## Calls -/

/-- The content with other hashes. -/
def Content.withHashes (genesisHash blockHash : Value) : Content → Content
  | .transfer params =>
      .transfer { params with toCallParams := params.toCallParams.withHashes genesisHash blockHash }
  | .call value params => .call value (params.withHashes genesisHash blockHash)

/-- What a content stands for does not depend on the context. -/
theorem Content.Encodes.of_ctx {crates : Crates} {content : Content} {ctx ctx' : SignContext}
    {bytes : List UInt8} (encodes : content.Encodes crates ctx bytes) :
    content.Encodes crates ctx' bytes := by
  cases encodes with
  | @transfer params _ keepAlive _ _ recipient amount assetId keepAlive_eq recipientGiven
      recipientParsed amountGiven amountParsed assetGiven =>
      have bytes_eq : encodeCall ⟨recipient, amount, assetId, keepAlive, ctx⟩ =
          encodeCall ⟨recipient, amount, assetId, keepAlive, ctx'⟩ := by
        cases assetId <;> rfl
      rw [bytes_eq]
      exact .transfer keepAlive_eq recipientGiven recipientParsed amountGiven amountParsed
        assetGiven
  | call given => exact .call given

/-- Contents that differ in the representation of hashes and call bytes only. -/
inductive SameContent : Content → Content → Prop
  | transfer {params : TransferParams} {other : CallParams}
      (same : SameParams params.toCallParams other) :
      SameContent (.transfer params) (.transfer { params with toCallParams := other })
  | call {value otherValue : Value} {params other : CallParams}
      (value_same : SameBytes value otherValue) (same : SameParams params other) :
      SameContent (.call value params) (.call otherValue other)

namespace SameContent

variable {crates : Crates} {content other : Content}

theorem symm (same : SameContent content other) : SameContent other content := by
  cases same with
  | transfer same => exact .transfer same.symm
  | call value_same same => exact .call value_same.symm same.symm

theorem params (same : SameContent content other) : SameParams content.params other.params := by
  cases same with
  | transfer same => exact same
  | call value_same same => exact same

theorem route_eq (same : SameContent content other) : other.route = content.route := by
  cases same <;> rfl

theorem encodes (same : SameContent content other) {ctx : SignContext} {bytes : List UInt8}
    (encodes : content.Encodes crates ctx bytes) : other.Encodes crates ctx bytes := by
  cases same with
  | transfer same =>
      cases encodes with
      | transfer keepAlive_eq recipientGiven recipientParsed amountGiven amountParsed assetGiven =>
          exact .transfer keepAlive_eq recipientGiven recipientParsed amountGiven amountParsed
            assetGiven
  | call value_same same =>
      cases encodes with
      | call given =>
          exact .call (toBytes_eq_ok_iff.mpr (value_same.represents (toBytes_eq_ok_iff.mp given)))

end SameContent

/-- Calls that differ in the representation of hashes and call bytes only. -/
inductive SameMeaning : SigningCall → SigningCall → Prop
  | intro {source : KeySource} {content other : Content} (same : SameContent content other) :
      SameMeaning ⟨source, content⟩ ⟨source, other⟩

theorem SameMeaning.symm {first second : SigningCall} (same : SameMeaning first second) :
    SameMeaning second first := by
  cases same with
  | intro same => exact .intro same.symm

namespace SigningCall

variable {crates : Crates}

/-- The stages of both calls build one context. -/
theorem exists_stages_of_same {first second : SigningCall} (same : SameMeaning first second)
    {object : Wasm.ContextObject} {js : Wasm.JsSignContext} {ctx : SignContext} {scheme : Scheme}
    (encoded : contextObject first.content.params
      (first.source.schemeArgument first.content.params) = .ok object)
    (delivered : Wasm.deserializeContext crates first.content.route object = .ok js)
    (built : Wasm.buildSignContext js = .ok (ctx, scheme)) :
    ∃ object js, contextObject second.content.params
        (second.source.schemeArgument second.content.params) = .ok object ∧
      Wasm.deserializeContext crates second.content.route object = .ok js ∧
      Wasm.buildSignContext js = .ok (ctx, scheme) := by
  cases same with
  | intro same =>
      obtain ⟨object, js, encodes, delivers, builds⟩ := same.params.exists_stages
        (contextObject_eq_ok_iff.mp encoded) (Wasm.deserializeContext_eq_ok_iff.mp delivered)
        (Wasm.buildSignContext_eq_ok_iff.mp built)
      rw [same.params.schemeArgument_eq, same.route_eq]
      exact ⟨object, js, contextObject_eq_ok_iff.mpr encodes,
        Wasm.deserializeContext_eq_ok_iff.mpr delivers, Wasm.buildSignContext_eq_ok_iff.mpr builds⟩

/-- What one call builds, the other builds. -/
theorem Builds.of_same {first second : SigningCall} (same : SameMeaning first second)
    {bytes : List UInt8} {ctx : SignContext} (builds : first.Builds crates bytes ctx) :
    second.Builds crates bytes ctx := by
  rcases builds with ⟨_, _, scheme, encoded, delivered, built, content⟩
  obtain ⟨object, js, encoded, delivered, built⟩ :=
    exists_stages_of_same same encoded delivered built
  cases same with
  | intro same => exact ⟨object, js, scheme, encoded, delivered, built, same.encodes content⟩

/-- A call that builds a context builds it with any other hashes. -/
theorem Builds.withHashes {call : SigningCall} {bytes : List UInt8} {ctx : SignContext}
    (builds : call.Builds crates bytes ctx) {genesisHash blockHash : Value}
    {genesis block : Bytes32} (isGenesis : RepresentsHash genesis genesisHash)
    (isBlock : RepresentsHash block blockHash) :
    Builds crates ⟨call.source, call.content.withHashes genesisHash blockHash⟩ bytes
      { ctx with genesisHash := genesis, blockHash := block } := by
  rcases builds with ⟨_, _, scheme, encoded, delivered, built, content⟩
  have given : blockHash ≠ .undefined := by
    rintro rfl
    contradiction
  have isBlock : RepresentsBlockHash block blockHash := by
    rwa [RepresentsBlockHash, if_neg given]
  obtain ⟨object, js, encodes, delivers, builds⟩ := exists_stages_withHashes
    (contextObject_eq_ok_iff.mp encoded) (Wasm.deserializeContext_eq_ok_iff.mp delivered)
    (Wasm.buildSignContext_eq_ok_iff.mp built) isGenesis isBlock
    (fun omitted => absurd omitted given)
  have encoded := contextObject_eq_ok_iff.mpr encodes
  have delivered := Wasm.deserializeContext_eq_ok_iff.mpr delivers
  have built := Wasm.buildSignContext_eq_ok_iff.mpr builds
  rcases call with ⟨source, params | ⟨value, params⟩⟩
  · refine ⟨object, js, scheme, ?_, delivered, built, ?_⟩
    · cases source <;> exact encoded
    · cases content with
      | transfer keepAlive_eq recipientGiven recipientParsed amountGiven amountParsed assetGiven =>
          exact .of_ctx (.transfer keepAlive_eq recipientGiven recipientParsed amountGiven
            amountParsed assetGiven)
  · refine ⟨object, js, scheme, ?_, delivered, built, ?_⟩
    · cases source <;> exact encoded
    · cases content with
      | call given => exact .call given

/-- A call that builds a context builds it with any other call bytes. -/
theorem Builds.withCall {source : KeySource} {value value' : Value} {params : CallParams}
    {bytes bytes' : List UInt8} {ctx : SignContext}
    (builds : Builds crates ⟨source, .call value params⟩ bytes ctx)
    (represents : RepresentsCall bytes' value') :
    Builds crates ⟨source, .call value' params⟩ bytes' ctx := by
  rcases builds with ⟨object, js, scheme, encoded, delivered, built, _⟩
  exact ⟨object, js, scheme, encoded, delivered, built, .call (toBytes_eq_ok_iff.mpr represents)⟩

/-- The hashes that are built are those given. -/
theorem Builds.representsHash {call : SigningCall} {bytes : List UInt8} {ctx : SignContext}
    (builds : call.Builds crates bytes ctx) :
    RepresentsHash ctx.genesisHash call.content.params.genesisHash ∧
      RepresentsBlockHash ctx.blockHash call.content.params.blockHash := by
  rcases builds with ⟨_, _, _, encoded, delivered, built, _⟩
  exact representsHash_of_stages (contextObject_eq_ok_iff.mp encoded)
    (Wasm.deserializeContext_eq_ok_iff.mp delivered) (Wasm.buildSignContext_eq_ok_iff.mp built)

/-- The call bytes that are built are those given. -/
theorem Builds.representsCall {source : KeySource} {value : Value} {params : CallParams}
    {bytes : List UInt8} {ctx : SignContext}
    (builds : Builds crates ⟨source, .call value params⟩ bytes ctx) :
    RepresentsCall bytes value := by
  rcases builds with ⟨_, _, _, _, _, _, content⟩
  cases content with
  | call given => exact toBytes_eq_ok_iff.mp given

namespace Execution

variable {call : SigningCall} {before after : Host} {output : List UInt8}

/-- A call that returns has built what it signs. -/
theorem builds_call (execution : Execution crates call before output after) :
    call.Builds crates execution.bytes execution.ctx :=
  ⟨_, _, _, execution.encoded, execution.delivered, execution.built, execution.content⟩

/-- When one call returns, so does the other, with the same output. -/
theorem of_same {other : SigningCall} (same : SameMeaning call other)
    (execution : Execution crates call before output after) :
    Nonempty (Execution crates other before output after) := by
  obtain ⟨object, js, encoded, delivered, built⟩ :=
    exists_stages_of_same same execution.encoded execution.delivered execution.built
  cases same with
  | intro same =>
      exact ⟨{
        object := object
        js := js
        ctx := execution.ctx
        scheme := execution.scheme
        bytes := execution.bytes
        keypair := execution.keypair
        encoded := encoded
        delivered := delivered
        built := built
        content := same.encodes execution.content
        keyed := (same.params.keypair_eq _ _).trans execution.keyed
        signed := by
          rw [same.params.derive_eq]
          exact execution.signed }⟩

end Execution

end SigningCall

/-! ## Two runs of one call -/

/-- A content stands for one sequence of bytes in a context. -/
theorem Content.Encodes.unique {crates : Crates} {content : Content} {ctx : SignContext}
    {first second : List UInt8} (isFirst : content.Encodes crates ctx first)
    (isSecond : content.Encodes crates ctx second) : first = second := by
  cases isFirst with
  | transfer keepAlive_eq recipientGiven recipientParsed amountGiven amountParsed assetGiven =>
      cases isSecond with
      | transfer keepAlive_eq' recipientGiven' recipientParsed' amountGiven' amountParsed'
          assetGiven' =>
          cases keepAlive_eq.symm.trans keepAlive_eq'
          cases recipientGiven.symm.trans recipientGiven'
          cases recipientParsed.symm.trans recipientParsed'
          cases amountGiven.symm.trans amountGiven'
          cases amountParsed.symm.trans amountParsed'
          cases assetGiven.symm.trans assetGiven'
          rfl
  | call given =>
      cases isSecond with
      | call given' => exact Except.ok.inj (given.symm.trans given')

namespace SigningCall.Execution

variable {crates : Crates} {call : SigningCall} {before after otherBefore otherAfter : Host}
  {output otherOutput : List UInt8}

/-- Two runs of one call sign the same bytes in the same context with the same
key. -/
theorem agree (first : Execution crates call before output after)
    (second : Execution crates call otherBefore otherOutput otherAfter) :
    first.ctx = second.ctx ∧ first.bytes = second.bytes ∧ first.keypair = second.keypair := by
  have objects : first.object = second.object :=
    Except.ok.inj (first.encoded.symm.trans second.encoded)
  have delivered := first.delivered
  rw [objects] at delivered
  have contexts : first.js = second.js := Except.ok.inj (delivered.symm.trans second.delivered)
  have built := first.built
  rw [contexts] at built
  rcases Prod.mk.inj (Except.ok.inj (built.symm.trans second.built)) with ⟨ctx_eq, scheme_eq⟩
  have content := first.content
  rw [ctx_eq] at content
  have keyed := first.keyed
  rw [scheme_eq] at keyed
  exact ⟨ctx_eq, content.unique second.content, Except.ok.inj (keyed.symm.trans second.keyed)⟩

/-- Their extrinsics differ in the signature only. -/
theorem differOnlyInSignature (first : Execution crates call before output after)
    (second : Execution crates call otherBefore otherOutput otherAfter) :
    ∃ signature otherSignature record otherRecord,
      after.signatures = before.signatures ++ [record] ∧
      otherAfter.signatures = otherBefore.signatures ++ [otherRecord] ∧
      record.signature = some signature ∧ otherRecord.signature = some otherSignature ∧
      Runtime.DifferOnlyInSignature signature otherSignature output otherOutput := by
  obtain ⟨ctx_eq, bytes_eq, keypair_eq⟩ := first.agree second
  have signed := first.signed
  rw [ctx_eq, bytes_eq, keypair_eq] at signed
  obtain ⟨signature, otherSignature, record, otherRecord, logged, otherLogged, made, otherMade,
    differ⟩ := @Runtime.differOnlyInSignature_of_same crates
      (.signCallWithKeypair second.keypair second.bytes second.ctx)
      (.signCallWithKeypair second.keypair second.bytes second.ctx) second.keypair rfl rfl rfl rfl
      _ _ _ _ _ _ signed second.signed
  rw [signatures_derive, signatures_noted] at logged otherLogged
  exact ⟨signature, otherSignature, record, otherRecord, logged, otherLogged, made, otherMade,
    differ⟩

end SigningCall.Execution

/-! ## Refusal -/

/-- No signature is made between two states. -/
def SignsNothing (before after : Host) : Prop :=
  after.signatures = before.signatures

instance : Std.Refl SignsNothing :=
  ⟨fun _ => rfl⟩

instance : IsTrans Host SignsNothing :=
  ⟨fun _ _ _ early late => late.trans early⟩

namespace SigningCall

variable {crates : Crates}

/-- The call throws in every state, and signs nothing. -/
def IsRefused (crates : Crates) (call : SigningCall) : Prop :=
  ∀ before, (∃ failure, ((call.serve crates).run before).1 = .error failure) ∧
    SignsNothing before ((call.serve crates).run before).2

/-- A call that builds nothing is refused. -/
theorem isRefused_of_not_builds {call : SigningCall}
    (unbuilt : ∀ bytes ctx, ¬call.Builds crates bytes ctx) : call.IsRefused crates := by
  have steps : (call.serve crates).Steps SignsNothing := by
    apply serve_steps
    · exact signatures_noted _
    · exact fun host scheme _ => signatures_derive _ _ scheme host
    · exact fun keypair bytes ctx builds => absurd builds (unbuilt bytes ctx)
  intro before
  refine ⟨?_, steps before⟩
  rcases ran : (call.serve crates).run before with ⟨result, after⟩
  cases result with
  | error failure => exact ⟨failure, rfl⟩
  | ok output =>
      obtain ⟨execution⟩ := run_serve_eq_ok_iff.mp ran
      exact absurd execution.builds_call (unbuilt _ _)

/-- A call with a hash of any other form is refused. -/
theorem isRefused_of_hash {call : SigningCall}
    (other : (∀ hash, ¬RepresentsHash hash call.content.params.genesisHash) ∨
      ∀ hash, ¬RepresentsBlockHash hash call.content.params.blockHash) :
    call.IsRefused crates := by
  apply isRefused_of_not_builds
  intro bytes ctx builds
  rcases other with noGenesis | noBlock
  · exact noGenesis _ builds.representsHash.1
  · exact noBlock _ builds.representsHash.2

/-- Call bytes of any other form are refused. -/
theorem isRefused_of_call {source : KeySource} {value : Value} {params : CallParams}
    (other : ∀ bytes, ¬RepresentsCall bytes value) :
    IsRefused crates ⟨source, .call value params⟩ :=
  isRefused_of_not_builds fun bytes _ builds => other bytes builds.representsCall

/-! ## Returning calls -/

/-- The call bytes given are in the extrinsic and in the message signed. -/
theorem Execution.exists_signed_call {source : KeySource} {value : Value} {params : CallParams}
    {bytes : List UInt8} {before after : Host} {output : List UInt8}
    (execution : Execution crates ⟨source, .call value params⟩ before output after)
    (represents : RepresentsCall bytes value) :
    ∃ extrinsic ctx checkpoint record, Runtime.ReadsAs output extrinsic ∧
      extrinsic.call = bytes ∧ after.signatures = before.signatures ++ [record] ∧
      record.message =
        signedMessage crates (signingPayload bytes ctx extrinsic.era checkpoint) := by
  obtain ⟨extrinsic, carries⟩ := execution.exists_carries
  obtain ⟨checkpoint, record, _, logged, message_eq⟩ := carries.signs
  have bytes_eq := execution.builds_call.representsCall.unique represents
  rw [bytes_eq] at message_eq
  exact ⟨extrinsic, execution.ctx, checkpoint, record, carries.reads,
    carries.call_eq.trans bytes_eq, logged, message_eq⟩

theorem run_serve_of_same {first second : SigningCall} (same : SameMeaning first second)
    {before after : Host} {output : List UInt8}
    (ran : (first.serve crates).run before = (.ok output, after)) :
    (second.serve crates).run before = (.ok output, after) := by
  obtain ⟨execution⟩ := run_serve_eq_ok_iff.mp ran
  exact run_serve_eq_ok_iff.mpr (execution.of_same same)

end SigningCall

/-- How hashes and call bytes are represented does not matter.  Every hash and
every call is accepted in each of its representations and in nothing else: a call
builds the hashes and signs the bytes it was given, whichever these are, and it
is refused when they are represented in no way at all.  A call of the same
meaning builds the same and returns the same up to the signature. -/
theorem representation_irrelevant (crates : Crates) :
    (∀ value field hash,
      (∃ text, toHex value field = .ok text ∧ Wasm.parseH256 text.toScalars field = .ok hash) ↔
        RepresentsHash hash value) ∧
    (∀ value hash,
      (∃ text, unlessUndefined value none (fun value => (toHex value "blockHash").map some) =
          .ok text ∧
        Wasm.parseOptional (List.Vector.replicate 32 0)
          (fun text => Wasm.parseH256 text "blockHash") (text.map Text.toScalars) = .ok hash) ↔
        RepresentsBlockHash hash value) ∧
    (∀ value field bytes, toBytes value field = .ok bytes ↔ RepresentsCall bytes value) ∧
    (∀ (call : SigningCall) bytes ctx genesisHash blockHash genesis block,
      call.Builds crates bytes ctx → RepresentsHash genesis genesisHash →
      RepresentsHash block blockHash →
      SigningCall.Builds crates ⟨call.source, call.content.withHashes genesisHash blockHash⟩ bytes
        { ctx with genesisHash := genesis, blockHash := block }) ∧
    (∀ source value params bytes ctx value' bytes',
      SigningCall.Builds crates ⟨source, .call value params⟩ bytes ctx →
      RepresentsCall bytes' value' →
      SigningCall.Builds crates ⟨source, .call value' params⟩ bytes' ctx) ∧
    (∀ (call : SigningCall) bytes ctx, call.Builds crates bytes ctx →
      RepresentsHash ctx.genesisHash call.content.params.genesisHash ∧
        RepresentsBlockHash ctx.blockHash call.content.params.blockHash) ∧
    (∀ call : SigningCall,
      ((∀ hash, ¬RepresentsHash hash call.content.params.genesisHash) ∨
        ∀ hash, ¬RepresentsBlockHash hash call.content.params.blockHash) →
      call.IsRefused crates) ∧
    (∀ source value params bytes before after output, RepresentsCall bytes value →
      (SigningCall.serve crates ⟨source, .call value params⟩).run before = (.ok output, after) →
      ∃ extrinsic ctx checkpoint record, Runtime.ReadsAs output extrinsic ∧
        extrinsic.call = bytes ∧ after.signatures = before.signatures ++ [record] ∧
        record.message =
          signedMessage crates (signingPayload bytes ctx extrinsic.era checkpoint)) ∧
    (∀ source value params, (∀ bytes, ¬RepresentsCall bytes value) →
      SigningCall.IsRefused crates ⟨source, .call value params⟩) ∧
    (∀ text, (∃ bytes, RepresentsCall bytes (.string text)) ↔
      (withoutHexPrefix text).length % 2 = 0 ∧ IsHexDigits (withoutHexPrefix text)) ∧
    (∀ first second, SameMeaning first second →
      (∀ bytes ctx, first.Builds crates bytes ctx ↔ second.Builds crates bytes ctx) ∧
      (∀ before output after, (first.serve crates).run before = (.ok output, after) ↔
        (second.serve crates).run before = (.ok output, after)) ∧
      ∀ before after output otherBefore otherAfter otherOutput,
        (first.serve crates).run before = (.ok output, after) →
        (second.serve crates).run otherBefore = (.ok otherOutput, otherAfter) →
        ∃ signature otherSignature record otherRecord,
          after.signatures = before.signatures ++ [record] ∧
          otherAfter.signatures = otherBefore.signatures ++ [otherRecord] ∧
          record.signature = some signature ∧ otherRecord.signature = some otherSignature ∧
          Runtime.DifferOnlyInSignature signature otherSignature output otherOutput) := by
  refine ⟨fun _ _ _ => parseH256_toHex_iff, fun _ _ => parseOptional_blockHash_iff,
    fun _ _ _ => toBytes_eq_ok_iff, ?_, ?_, ?_, ?_, ?_, ?_, exists_representsCall_string_iff, ?_⟩
  · exact fun call bytes ctx _ _ _ _ builds isGenesis isBlock => builds.withHashes isGenesis isBlock
  · exact fun source value params bytes ctx _ _ builds represents => builds.withCall represents
  · exact fun call bytes ctx builds => builds.representsHash
  · exact fun call other => SigningCall.isRefused_of_hash other
  · intro source value params bytes before after output represents ran
    obtain ⟨execution⟩ := SigningCall.run_serve_eq_ok_iff.mp ran
    exact execution.exists_signed_call represents
  · exact fun source value params other => SigningCall.isRefused_of_call other
  · intro first second same
    refine ⟨?_, ?_, ?_⟩
    · exact fun bytes ctx => ⟨.of_same same, .of_same same.symm⟩
    · exact fun before output after =>
        ⟨SigningCall.run_serve_of_same same, SigningCall.run_serve_of_same same.symm⟩
    · intro before after output otherBefore otherAfter otherOutput ran otherRan
      obtain ⟨execution⟩ := SigningCall.run_serve_eq_ok_iff.mp ran
      obtain ⟨other⟩ :=
        SigningCall.run_serve_eq_ok_iff.mp (SigningCall.run_serve_of_same same.symm otherRan)
      exact execution.differOnlyInSignature other

end Js

namespace Reference

open Ecma Ext Js

/-- A call of 64 blocks from block 100 on, with hashes and call given as bytes. -/
def plainCall : SigningCall where
  source := .seed (.uint8Array (List.replicate 32 1))
  content := .call (.uint8Array [0xAB, 0xCD]) (callParams .undefined
    (.number (Number.ofInt (64 : Nat))) (.number (Number.ofInt (100 : Nat))))

/-- The genesis hash, padded and under a prefix. -/
def genesisText : Text :=
  Text.ofChars (['\n', ' ', '0', 'x', '0', '9'] ++ List.replicate 62 '0' ++ ['\t'])

/-- The hash of the anchor, as bare digits. -/
def blockText : Text :=
  Text.ofChars (['0', '8'] ++ List.replicate 62 '0')

/-- The same call with text in place of bytes. -/
def writtenCall : SigningCall where
  source := .seed (.uint8Array (List.replicate 32 1))
  content := .call (.string (Text.ofChars ['0', 'x', 'a', 'B', 'C', 'd'])) ((callParams .undefined
    (.number (Number.ofInt (64 : Nat))) (.number (Number.ofInt (100 : Nat)))).withHashes
      (.string genesisText) (.string blockText))

theorem exists_run_plainCall :
    ∃ output after, (plainCall.serve crates).run Host.initial = (.ok output, after) := by
  apply @exists_run_serve .undefined _ _ _ 0 64 100 .mlDsa87 plainCall
  · rfl
  · exact (by decide : 64 < 2 ^ 53)
  · decide
  · rfl
  · exact (parse_zero "tip").2
  · exact counter_ofInt (by decide) "period"
  · exact counter_ofInt (by decide) "blockNumber"
  · rfl
  · exact .call rfl
  · rfl
  · exact resolveEra_reference
  · decide

/-- Bytes and text return one extrinsic. -/
theorem representation_irrelevant_writtenCall :
    ∃ output after, (plainCall.serve crates).run Host.initial = (.ok output, after) ∧
      (writtenCall.serve crates).run Host.initial = (.ok output, after) := by
  obtain ⟨represents, _, representsCall, _, _, _, _, _, _, _, irrelevant⟩ :=
    representation_irrelevant crates
  obtain ⟨output, after, ran⟩ := exists_run_plainCall
  have genesis : RepresentsHash context.genesisHash (.string genesisText) :=
    (represents _ "genesisHash" _).mp ⟨_, rfl, by decide⟩
  have block : RepresentsHash context.blockHash (.string blockText) :=
    (represents _ "blockHash" _).mp ⟨_, rfl, by decide⟩
  have digits : RepresentsCall [0xAB, 0xCD]
      (.string (Text.ofChars ['0', 'x', 'a', 'B', 'C', 'd'])) :=
    (representsCall _ "call" _).mp (by decide)
  have same : SameMeaning plainCall writtenCall :=
    .intro (.call (.inr ⟨_, .bytes, digits⟩)
      (.intro (.inr ⟨_, .bytes, genesis⟩) (.inr ⟨_, .bytes, block⟩)))
  exact ⟨output, after, ran, ((irrelevant _ _ same).2.1 _ _ _).mp ran⟩

end Reference

end QuantusWasm
