import QuantusWasm.Js.Anchor
import QuantusWasm.Js.Equivalence
import QuantusWasm.Js.KeySelection
import QuantusWasm.Js.Pipeline
import QuantusWasm.Runtime.Admission

/-!
# Admission of what a call returns

From parameters to the runtime.  What a call returned is accepted exactly where
the parameters describe what the runtime has: its genesis, its versions and the
anchor of the period.
-/

namespace QuantusWasm

namespace Js

open Ecma Effect Ext QuantusWasm.Runtime

/-- serde takes a JavaScript value for a `u32` only when it is that integer. -/
def ReadsWords (crates : Crates) : Prop :=
  ∀ {route value word}, crates.deserializeU32 route value = .ok word →
    value.integer? = some (word.toNat : Int)

/-- What the parameters say is what the runtime has. -/
structure DescribedBy (view : View) (params : CallParams) : Prop where
  genesis : RepresentsHash (view.chain.blockHash 0) params.genesisHash
  specVersion : params.specVersion.integer? = some (view.chain.specVersion.toNat : Int)
  transactionVersion :
    params.transactionVersion.integer? = some (view.chain.transactionVersion.toNat : Int)
  started : ¬params.period.IsPositive → view.keeps 0 = true
  anchored : params.period.IsPositive → ∃ period block birth,
    params.period.integer? = some (UInt64.toNat period : Int) ∧
      CounterIs params.blockNumber block ∧
      IsBirth period.toNat block.toNat view.height birth ∧
      view.keeps birth = true ∧ RepresentsHash (view.chain.blockHash birth) params.blockHash

/-! ## Parameters and contexts -/

theorem CounterIs.unique {value : Value} {first second : UInt64} (isFirst : CounterIs value first)
    (isSecond : CounterIs value second) : first = second := by
  unfold CounterIs at isFirst isSecond
  split_ifs at isFirst isSecond with omitted
  · exact isFirst.trans isSecond.symm
  · rw [isFirst, Option.some.injEq] at isSecond
    apply UInt64.toNat_inj.mp
    exact_mod_cast isSecond

theorem isPositive_of_integer? {value : Value} {integer : Int}
    (known : value.integer? = some integer) (above : 0 < integer) : value.IsPositive := by
  cases value with
  | number number => exact (Number.greaterThanZero_iff known).mpr above
  | bigint given =>
      cases known
      exact above
  | undefined => contradiction
  | null => contradiction
  | boolean value => contradiction
  | string value => contradiction
  | uint8Array value => contradiction
  | other => contradiction

section Stages

variable {crates : Crates} {view : View}

/-- A value represents a hash just in case it is the one represented. -/
theorem RepresentsHash.eq_iff {value : Value} {hash other : Bytes32}
    (represents : RepresentsHash hash value) : other = hash ↔ RepresentsHash other value := by
  constructor
  · rintro rfl
    exact represents
  · intro otherRepresents
    exact otherRepresents.unique represents

theorem version_eq_iff {value : Value} {word other : UInt32}
    (known : value.integer? = some (word.toNat : Int)) :
    other = word ↔ value.integer? = some (other.toNat : Int) := by
  rw [known, Option.some.injEq, Nat.cast_inj, UInt32.toNat_inj]
  exact eq_comm

namespace SigningCall.Execution

variable {call : SigningCall} {before after : Host} {output : List UInt8}

theorem period_ne_zero_iff (law : ReadsSafeIntegers crates)
    (execution : Execution crates call before output after) :
    execution.ctx.period ≠ 0 ↔ call.content.params.period.IsPositive := by
  constructor
  · intro nonzero
    have known := execution.counterIs_period law
    by_cases given : call.content.params.period = .undefined
    · rw [given, counterIs_undefined_iff] at known
      exact absurd known nonzero
    · apply isPositive_of_integer? ((counterIs_iff_of_ne given _).mp known)
      exact_mod_cast UInt64.pos_iff_ne_zero.mpr nonzero
  · exact execution.period_ne_zero law

/-- The runtime admits the context that was built exactly if the parameters
describe what it has. -/
theorem admits_iff (law : ReadsSafeIntegers crates) (words : ReadsWords crates)
    (execution : Execution crates call before output after) :
    view.Admits execution.ctx ↔ DescribedBy view call.content.params := by
  obtain ⟨genesis, block⟩ := execution.builds_call.representsHash
  have spec := words execution.delivers.specVersion
  have transaction := words execution.delivers.transactionVersion
  rw [execution.encodes.specVersion_eq, ← execution.builds.specVersion_eq] at spec
  rw [execution.encodes.transactionVersion_eq, ← execution.builds.transactionVersion_eq]
    at transaction
  have mortal_iff := execution.period_ne_zero_iff law
  have anchored_iff : ∀ positive : call.content.params.period.IsPositive, ∀ birth,
      view.chain.blockHash birth = execution.ctx.blockHash ↔
        RepresentsHash (view.chain.blockHash birth) call.content.params.blockHash := by
    intro positive birth
    rw [RepresentsBlockHash, if_neg (execution.blockHash_of_positive law positive).1] at block
    exact block.eq_iff
  constructor
  · intro admits
    refine ⟨genesis.eq_iff.mp admits.genesis, (version_eq_iff spec).mp admits.specVersion,
      (version_eq_iff transaction).mp admits.transactionVersion, ?_, ?_⟩
    · exact fun nonpositive =>
        admits.started (not_ne_iff.mp fun nonzero => nonpositive (mortal_iff.mp nonzero))
    · intro positive
      rcases admits.anchored (execution.period_ne_zero law positive) with
        ⟨birth, isBirth, kept, hash_eq⟩
      exact ⟨_, _, birth, execution.period_integer? law positive,
        execution.counterIs_blockNumber law, isBirth, kept,
        (anchored_iff positive birth).mp hash_eq⟩
  · intro described
    refine ⟨genesis.eq_iff.mpr described.genesis, (version_eq_iff spec).mpr described.specVersion,
      (version_eq_iff transaction).mpr described.transactionVersion, ?_, ?_⟩
    · exact fun zero => described.started fun positive => mortal_iff.mpr positive zero
    · intro nonzero
      have positive := mortal_iff.mp nonzero
      rcases described.anchored positive with
        ⟨period, number, birth, periodGiven, numberGiven, isBirth, kept, represents⟩
      have known := execution.period_integer? law positive
      rw [periodGiven, Option.some.injEq, Nat.cast_inj, UInt64.toNat_inj] at known
      rw [known, numberGiven.unique (execution.counterIs_blockNumber law)] at isBirth
      exact ⟨birth, isBirth, kept, (anchored_iff positive birth).mpr represents⟩

/-- What was returned decodes, as an extrinsic signed by the account of the
key. -/
theorem exists_decoded (execution : Execution crates call before output after)
    (fits : output.length < 2 ^ 32) :
    ∃ extrinsic, decodeExtrinsic output = some extrinsic ∧ extrinsic.nonce = execution.ctx.nonce ∧
      SignedBy extrinsic (accountOf execution.keypair) := by
  obtain ⟨_, _, _, _, _, _, _, output_eq, _⟩ := exists_assembled_of_signCall execution.signed
  exact ⟨_, decodeExtrinsic_encodeExtrinsic output_eq fits, rfl, rfl, rfl, rfl⟩

theorem accepts_iff (law : ReadsSafeIntegers crates) (words : ReadsWords crates)
    {verifier : Verifier} (correct : verifier.Correct crates)
    (execution : Execution crates call before output after) {extrinsic : SignedExtrinsic}
    (decoded : decodeExtrinsic output = some extrinsic)
    (binds : verifier.Binds crates execution.bytes execution.ctx view extrinsic)
    (noCollision : NoRebuiltCollision crates execution.bytes execution.ctx view extrinsic) :
    view.accepts crates verifier extrinsic = true ↔ DescribedBy view call.content.params :=
  (@accepts_iff_admits crates view verifier correct
    (.signCallWithKeypair execution.keypair execution.bytes execution.ctx) _ _ _ _
    execution.signed decoded binds noCollision).trans (execution.admits_iff law words)

end SigningCall.Execution

/-- Whatever a call returned is signed by the account of its key with the nonce
of the parameters, and the runtime accepts it exactly where the parameters
describe what it has. -/
theorem accepted_iff_described (law : ReadsSafeIntegers crates) (words : ReadsWords crates)
    {verifier : Verifier} (correct : verifier.Correct crates) {call : SigningCall}
    {before after : Host} {output : List UInt8}
    (ran : (call.serve crates).run before = (.ok output, after))
    (fits : output.length < 2 ^ 32) :
    ∃ (scheme : Scheme) (keypair : Keypair crates) (extrinsic : SignedExtrinsic),
      call.source.keypair crates call.content.params scheme = .ok keypair ∧
      decodeExtrinsic output = some extrinsic ∧ SignedBy extrinsic (accountOf keypair) ∧
      call.content.params.nonce.integer? = some (extrinsic.nonce.toNat : Int) ∧
      ∀ view : View, (∀ bytes ctx, call.Builds crates bytes ctx →
        verifier.Binds crates bytes ctx view extrinsic ∧
          NoRebuiltCollision crates bytes ctx view extrinsic) →
        (view.accepts crates verifier extrinsic = true ↔
          DescribedBy view call.content.params) := by
  obtain ⟨execution⟩ := SigningCall.run_serve_eq_ok_iff.mp ran
  obtain ⟨extrinsic, decoded, nonce_eq, signedBy⟩ := execution.exists_decoded fits
  have nonce_known := execution.nonce_integer? law
  rw [← nonce_eq] at nonce_known
  refine ⟨execution.scheme, execution.keypair, extrinsic, execution.keyed, decoded, signedBy,
    nonce_known, ?_⟩
  intro view separates
  obtain ⟨binds, noCollision⟩ := separates _ _ execution.builds_call
  exact execution.accepts_iff law words correct decoded binds noCollision

end Stages

end Js

namespace Reference

open Codec Ecma Effect Ext Js QuantusWasm.Runtime

theorem readsWords : ReadsWords crates := by
  intro route value word read
  change deserializeU32 value = .ok word at read
  unfold deserializeU32 at read
  cases known : value.integer? with
  | none => simp [known] at read
  | some integer =>
      simp only [known] at read
      split_ifs at read with range
      rw [← Except.ok.inj read, UInt32.toNat_ofNat_of_lt' (by simp only [UInt32.size]; omega),
        Int.toNat_of_nonneg range.1]

/-- A call for 64 blocks from block 100 on. -/
def mortalCall : SigningCall where
  source := .seed (.uint8Array (List.replicate 32 1))
  content := .call (.uint8Array [2, 3]) (callParams .undefined
    (.number (Number.ofInt (64 : Nat))) (.number (Number.ofInt (100 : Nat))))

theorem build_mortalCall :
    mortalCall.build crates = .ok ([2, 3], contextOf 0 64 100, .mlDsa87) := by
  have encoded := @contextObject_callParams .undefined _ _ (Text.ofChars ['0']) 64 100
    (mortalCall.source.schemeArgument mortalCall.content.params) rfl
    (counter_ofInt (by decide) "period") (counter_ofInt (by decide) "blockNumber")
  exact SigningCall.build_eq_ok_iff.mpr ⟨_, _, encoded,
    deserializeContext_objectOf (by decide) (by decide) _,
    buildSignContext_deliveredOf rfl (parse_zero "tip").2, .call rfl⟩

theorem exists_run_mortalCall :
    ∃ output after, (mortalCall.serve crates).run Host.initial = (.ok output, after) :=
  @exists_run_call _ _ 64 100 .mlDsa87 mortalCall.source _ _ _ Host.initial (by decide)
    (by decide) (counter_ofInt (by decide) "period") (counter_ofInt (by decide) "blockNumber")
    rfl rfl resolveEra_reference (by decide)

/-- It builds nothing else. -/
theorem eq_of_builds_mortalCall {bytes : List UInt8} {ctx : SignContext}
    (builds : mortalCall.Builds crates bytes ctx) : bytes = [2, 3] ∧ ctx = contextOf 0 64 100 := by
  rcases builds with ⟨object, js, scheme, stages⟩
  have built := SigningCall.build_eq_ok_iff.mpr ⟨object, js, stages⟩
  cases build_mortalCall.symm.trans built
  exact ⟨rfl, rfl⟩

/-- What the signer makes of a short call fits in every length prefix. -/
theorem length_lt_of_signCall {keypair : Keypair crates} {call : List UInt8} {ctx : SignContext}
    {before after : Host} {output : List UInt8}
    (ran : (signCallWithKeypair keypair call ctx).run before = (.ok output, after))
    (least : 2 ^ 6 ≤ bodyLength keypair.scheme call ctx)
    (small : bodyLength keypair.scheme call ctx < 2 ^ 14) : output.length < 2 ^ 32 := by
  obtain ⟨_, era, _, signature, _, resolved, _, rfl, _⟩ := exists_assembled_of_signCall ran
  have body_length := @length_body_assembled _ _ signature era _ call _ resolved
  rw [encodeExtrinsic, withLength_of_lt (body_length ▸ least) (body_length ▸ small),
    List.length_append, length_littleEndian, body_length]
  omega

theorem length_mortalCall {output : List UInt8} {after : Host}
    (ran : (mortalCall.serve crates).run Host.initial = (.ok output, after)) :
    output.length < 2 ^ 32 := by
  obtain ⟨execution⟩ := SigningCall.run_serve_eq_ok_iff.mp ran
  have signed := execution.signed
  obtain ⟨bytes_eq, ctx_eq⟩ := eq_of_builds_mortalCall execution.builds_call
  rw [bytes_eq, ctx_eq] at signed
  apply length_lt_of_signCall signed
  · cases execution.keypair.scheme <;> decide
  · cases execution.keypair.scheme <;> decide

theorem describedBy_mortalCall : DescribedBy (viewAt 163) mortalCall.content.params where
  genesis := .bytes
  specVersion := @Number.integer?_ofInt_natCast 100 (by decide)
  transactionVersion := @Number.integer?_ofInt_natCast 1 (by decide)
  started _ := by decide
  anchored _ := by
    refine ⟨64, 100, 100, @Number.integer?_ofInt_natCast 64 (by decide), ?_, ?_, by decide, .bytes⟩
    · exact (counterIs_iff_of_ne Value.noConfusion _).mpr
        (@Number.integer?_ofInt_natCast 100 (by decide))
    · exact ⟨rfl, by decide, by decide⟩

theorem separates_mortalCall {output : List UInt8} {after : Host} {extrinsic : SignedExtrinsic}
    (ran : (mortalCall.serve crates).run Host.initial = (.ok output, after))
    (decoded : decodeExtrinsic output = some extrinsic) (view : View) (bytes : List UInt8)
    (ctx : SignContext) (builds : mortalCall.Builds crates bytes ctx) :
    verifier.Binds crates bytes ctx view extrinsic ∧
      NoRebuiltCollision crates bytes ctx view extrinsic := by
  obtain ⟨execution⟩ := SigningCall.run_serve_eq_ok_iff.mp ran
  obtain ⟨rfl, rfl⟩ := eq_of_builds_mortalCall builds
  obtain ⟨bytes_eq, ctx_eq⟩ := eq_of_builds_mortalCall execution.builds_call
  have signed := execution.signed
  rw [bytes_eq, ctx_eq] at signed
  exact ⟨@binds_of_run (.signCallWithKeypair execution.keypair [2, 3] (contextOf 0 64 100)) _ _ _ _
    signed decoded view, noRebuiltCollision_of_short (by decide) _⟩

/-- It is accepted in the last block of its period. -/
theorem accepted_iff_described_mortalCall :
    ∃ output after extrinsic,
      (mortalCall.serve crates).run Host.initial = (.ok output, after) ∧
      decodeExtrinsic output = some extrinsic ∧
      (viewAt 163).accepts crates verifier extrinsic = true := by
  obtain ⟨output, after, ran⟩ := exists_run_mortalCall
  obtain ⟨_, _, extrinsic, _, decoded, _, _, accepted_iff⟩ := accepted_iff_described
    readsSafeIntegers readsWords verifier_correct ran (length_mortalCall ran)
  exact ⟨output, after, extrinsic, ran, decoded,
    (accepted_iff _ (separates_mortalCall ran decoded _)).mpr describedBy_mortalCall⟩

end Reference

end QuantusWasm
