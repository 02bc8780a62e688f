import QuantusWasm.Js.Counter

/-!
# The anchor of a mortal extrinsic

A mortal era is anchored to a block and to the hash of that block.  The hash is
required once the period is positive, and the one that is signed is the one
supplied.  The block number is not: a missing one becomes block 0, and the era
that results is anchored to a block nobody named.
-/

namespace QuantusWasm

namespace Js

open Ecma Effect Ext

/-- A parameter that stands for a hash. -/
def HashOf (value : Value) (hash : Bytes32) : Prop :=
  ∃ text, toHex value "blockHash" = .ok text ∧
    Wasm.parseH256 text.toScalars "blockHash" = .ok hash

/-- The extrinsic is that of a mortal era and a signed checkpoint hash. -/
def IsAnchored (crates : Crates) (output : List UInt8) (before after : Host)
    (period block : UInt64) (hash : Bytes32) : Prop :=
  ∃ extrinsic ctx record, Runtime.ReadsAs output extrinsic ∧
    extrinsic.era = Era.mortal period block ∧
    after.signatures = before.signatures ++ [record] ∧
    record.message =
      signedMessage crates (signingPayload extrinsic.call ctx extrinsic.era hash)

/-- Block number and block hash were both supplied, and the extrinsic is
anchored to them. -/
structure AnchoredAsSupplied (crates : Crates) (params : CallParams) (output : List UInt8)
    (before after : Host) : Prop where
  blockGiven : params.blockNumber ≠ .undefined
  hashGiven : params.blockHash ≠ .undefined
  anchored : ∃ period block hash, params.period.integer? = some (UInt64.toNat period : Int) ∧
    params.blockNumber.integer? = some (UInt64.toNat block : Int) ∧
    HashOf params.blockHash hash ∧ IsAnchored crates output before after period block hash

section Stages

variable {crates : Crates}

namespace SigningCall.Execution

variable {call : SigningCall} {before after : Host} {output : List UInt8}

/-- A positive period needs a block hash, and the context holds the hash
supplied. -/
theorem blockHash_of_positive (law : ReadsSafeIntegers crates)
    (execution : Execution crates call before output after)
    (positive : call.content.params.period.IsPositive) :
    call.content.params.blockHash ≠ .undefined ∧
      HashOf call.content.params.blockHash execution.ctx.blockHash := by
  have period_known := (law execution.delivers.period).2
  have period_pos : execution.object.period.greaterThanZero = true := by
    rw [Number.greaterThanZero_iff period_known, ← execution.builds.period_eq]
    exact pos_of_isPositive positive (execution.period_integer? law positive)
  have given : call.content.params.blockHash ≠ .undefined :=
    fun absent => execution.encodes.anchored ⟨period_pos, absent⟩
  have encoded := execution.encodes.blockHash
  rw [unlessUndefined_of_ne given, map_eq_ok_iff] at encoded
  rcases encoded with ⟨text, hex, object_eq⟩
  have parsed := execution.builds.blockHash
  rw [execution.delivers.blockHash_eq, ← object_eq] at parsed
  exact ⟨given, text, hex, parsed⟩

/-- A mortal extrinsic is anchored to the block and the hash of its context. -/
theorem isAnchored (law : ReadsSafeIntegers crates)
    (execution : Execution crates call before output after)
    (positive : call.content.params.period.IsPositive) :
    IsAnchored crates output before after execution.ctx.period execution.ctx.blockNumber
      execution.ctx.blockHash := by
  obtain ⟨extrinsic, carries⟩ := execution.exists_carries
  obtain ⟨checkpoint, record, resolved, logged, message_eq⟩ := carries.signs
  have nonzero := execution.period_ne_zero law positive
  obtain ⟨_, _, rfl⟩ := (resolveEra_mortal_eq_ok_iff nonzero).mp resolved
  refine ⟨extrinsic, execution.ctx, record, carries.reads, ?_, logged, ?_⟩
  · rw [carries.era_eq, Era.ofCounters, if_neg nonzero]
  · rw [message_eq, carries.call_eq]

/-- A missing block number is block 0. -/
theorem blockNumber_of_missing (law : ReadsSafeIntegers crates)
    (execution : Execution crates call before output after)
    (missing : call.content.params.blockNumber = .undefined) : execution.ctx.blockNumber = 0 := by
  have known := execution.counterIs_blockNumber law
  rwa [missing, counterIs_undefined_iff] at known

/-- A mortal call that returns is anchored as supplied exactly when a block
number was supplied. -/
theorem anchoredAsSupplied_iff (law : ReadsSafeIntegers crates)
    (execution : Execution crates call before output after)
    (positive : call.content.params.period.IsPositive) :
    AnchoredAsSupplied crates call.content.params output before after ↔
      call.content.params.blockNumber ≠ .undefined := by
  constructor
  · exact AnchoredAsSupplied.blockGiven
  · intro given
    obtain ⟨hashGiven, hash⟩ := execution.blockHash_of_positive law positive
    have block_known := (counterIs_iff_of_ne given _).mp (execution.counterIs_blockNumber law)
    exact ⟨given, hashGiven, _, _, _, execution.period_integer? law positive, block_known, hash,
      execution.isAnchored law positive⟩

end SigningCall.Execution

end Stages

end Js

namespace Reference

open Ecma Effect Ext Js

/-- A mortal call without a block number. -/
def unanchoredCall (period : Nat) : SigningCall where
  source := .seed (.uint8Array (List.replicate 32 1))
  content := .call (.uint8Array [2, 3])
    (callParams .undefined (.number (Number.ofInt period)) .undefined)

theorem exists_run_unanchoredCall {period : Nat} (positive : 0 < period)
    (small : period < 2 ^ 53) {host : Host} (few : host.draws < 256 ^ 32) :
    ∃ output after, ((unanchoredCall period).serve crates).run host = (.ok output, after) := by
  have mortal : (contextOf 0 period 0).period ≠ 0 := by
    intro zero
    have nat_zero := congrArg UInt64.toNat zero
    have period_eq : (UInt64.ofNat period).toNat = period :=
      UInt64.toNat_ofNat_of_lt' (lt_trans small (by decide))
    exact absurd (period_eq.symm.trans nat_zero) positive.ne'
  have resolved := (resolveEra_mortal_eq_ok_iff mortal).mpr ⟨Nat.dvd_zero _, rfl, rfl⟩
  exact @exists_run_call _ .undefined period 0 .mlDsa87 (unanchoredCall period).source _ _ _ host
    small (by decide) (counter_ofInt small "period") rfl rfl rfl resolved few

theorem period_isPositive {period : Nat} (positive : 0 < period) (small : period < 2 ^ 53) :
    (Value.number (Number.ofInt period)).IsPositive := by
  have above : 0 < (period : Int) := by exact_mod_cast positive
  exact (Number.greaterThanZero_iff (Number.integer?_ofInt_natCast small)).mpr above

end Reference

namespace Js

open Ecma Effect Ext

/-- A mortal call that returns is anchored as supplied exactly when a block
number was supplied, and over all calls of a given period no weaker condition
is enough. -/
theorem anchoredAsSupplied_iff_blockNumber (block : Value) :
    (∀ (crates : Crates), ReadsSafeIntegers crates →
      ∀ (call : SigningCall) before after output,
      call.content.params.blockNumber = block → call.content.params.period.IsPositive →
      (call.serve crates).run before = (.ok output, after) →
      (AnchoredAsSupplied crates call.content.params output before after ↔
        block ≠ .undefined)) ∧
    (∀ period, 0 < period → period < 2 ^ 53 →
      ((∀ (crates : Crates), ReadsSafeIntegers crates →
        ∀ (call : SigningCall) before after output,
        call.content.params.blockNumber = block →
        call.content.params.period = .number (Number.ofInt (period : Nat)) →
        (call.serve crates).run before = (.ok output, after) →
        AnchoredAsSupplied crates call.content.params output before after) ↔
          block ≠ .undefined)) := by
  constructor
  · rintro crates law call before after output rfl positive ran
    obtain ⟨execution⟩ := SigningCall.run_serve_eq_ok_iff.mp ran
    exact execution.anchoredAsSupplied_iff law positive
  · intro period positive small
    constructor
    · rintro anchored rfl
      obtain ⟨output, after, ran⟩ :=
        @Reference.exists_run_unanchoredCall period positive small Host.initial (by decide)
      exact (anchored _ Reference.readsSafeIntegers _ _ _ _ rfl rfl ran).blockGiven rfl
    · rintro given crates law call before after output rfl period_eq ran
      obtain ⟨execution⟩ := SigningCall.run_serve_eq_ok_iff.mp ran
      refine (execution.anchoredAsSupplied_iff law ?_).mpr given
      rw [period_eq]
      exact Reference.period_isPositive positive small

end Js

namespace Reference

open Ecma Effect Ext Js

/-- A mortal extrinsic comes back although no block was named: its era is that
of block 0. -/
theorem not_anchoredAsSupplied_of_missing :
    (∃ output after extrinsic,
      ((unanchoredCall 64).serve crates).run Host.initial = (.ok output, after) ∧
      (unanchoredCall 64).content.params.blockNumber = .undefined ∧
      Runtime.ReadsAs output extrinsic ∧ extrinsic.era = Era.mortal 64 0) ∧
    ¬∀ (crates : Crates), ReadsSafeIntegers crates → ∀ (call : SigningCall) before after output,
      call.content.params.period.IsPositive →
      (call.serve crates).run before = (.ok output, after) →
      AnchoredAsSupplied crates call.content.params output before after := by
  obtain ⟨output, after, ran⟩ :=
    @exists_run_unanchoredCall 64 (by decide) (by decide) Host.initial (by decide)
  have positive := @period_isPositive 64 (by decide) (by decide)
  obtain ⟨execution⟩ := SigningCall.run_serve_eq_ok_iff.mp ran
  constructor
  · obtain ⟨extrinsic, _, _, reads, era_eq, _⟩ :=
      execution.isAnchored readsSafeIntegers positive
    have known := execution.period_integer? readsSafeIntegers positive
    have period_eq := eq_of_integer? known (@Number.integer?_ofInt_natCast 64 (by decide))
    rw [period_eq, execution.blockNumber_of_missing readsSafeIntegers rfl] at era_eq
    exact ⟨output, after, extrinsic, ran, rfl, reads, era_eq⟩
  · intro always
    exact (always crates readsSafeIntegers (unanchoredCall 64) _ _ _ positive ran).blockGiven rfl

end Reference

end QuantusWasm
