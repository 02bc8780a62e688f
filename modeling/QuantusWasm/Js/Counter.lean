import QuantusWasm.Js.Sample
import QuantusWasm.Js.Serve

/-!
# Chain counters

Nonce, period and block number are numbers or bigints.  A bigint is rounded to
the nearest number on its way into wasm, and only there is that number required
to be a safe integer.  This suffices: no integer from outside the safe range is
rounded into it, so a counter that is delivered is the one that was given.
-/

namespace QuantusWasm

namespace Js

open Ecma Effect Ext

/-- The word stands for a counter that may be omitted. -/
def CounterIs (value : Value) (word : UInt64) : Prop :=
  if value = .undefined then word = 0 else value.integer? = some (word.toNat : Int)

theorem counterIs_iff_of_ne {value : Value} (given : value ≠ .undefined) (word : UInt64) :
    CounterIs value word ↔ value.integer? = some (word.toNat : Int) := by
  rw [CounterIs, if_neg given]

theorem counterIs_undefined_iff (word : UInt64) : CounterIs .undefined word ↔ word = 0 := by
  rw [CounterIs, if_pos rfl]

theorem pos_of_isPositive {value : Value} {integer : Int} (positive : value.IsPositive)
    (known : value.integer? = some integer) : 0 < integer := by
  cases value with
  | number number => exact (Number.greaterThanZero_iff known).mp positive
  | bigint given =>
      cases known
      exact positive
  | undefined => contradiction
  | null => contradiction
  | boolean value => contradiction
  | string value => contradiction
  | uint8Array value => contradiction
  | other => contradiction

/-- Two readings of one counter agree. -/
theorem eq_of_integer? {value : Value} {word : UInt64} {natural : Nat}
    (known : value.integer? = some (word.toNat : Int))
    (given : value.integer? = some (natural : Int)) : word = UInt64.ofNat natural := by
  have toNat_eq : word.toNat = natural := by
    exact_mod_cast Option.some.inj (known.symm.trans given)
  rw [← toNat_eq, UInt64.ofNat_toNat]

section Stages

variable {crates : Crates} {route : Route} {field : String} {number : Number} {word : UInt64}

/-- A numeric parameter that serde delivers is delivered as it was given. -/
theorem integer?_of_delivered (law : ReadsSafeIntegers crates) {value : Value}
    (encoded : toNumber value field = .ok number)
    (read : crates.deserializeU64 route number = .ok word) :
    value.integer? = some (word.toNat : Int) := by
  obtain ⟨safe, known⟩ := law read
  rcases (toNumber_eq_ok_iff.mp encoded).1 with rfl | ⟨integer, rfl, rfl⟩
  · exact known
  · -- A safe nearest number is the integer itself.
    exact (Number.integer?_ofInt_of_safe safe).symm.trans known

theorem counterIs_of_delivered (law : ReadsSafeIntegers crates) {value : Value}
    (encoded : unlessUndefined value (Number.ofInt 0) (fun value => toNumber value field) =
      .ok number)
    (read : crates.deserializeU64 route number = .ok word) : CounterIs value word := by
  by_cases given : value = .undefined
  · subst given
    rw [unlessUndefined, if_pos rfl, Except.ok.injEq] at encoded
    have zero : (Number.ofInt 0).integer? = some 0 := Number.integer?_ofInt_of_small (by decide)
    have known := (law read).2
    rw [← encoded, zero, Option.some.injEq] at known
    rw [counterIs_undefined_iff]
    apply UInt64.toNat_inj.mp
    exact_mod_cast known.symm
  · rw [unlessUndefined_of_ne given] at encoded
    exact (counterIs_iff_of_ne given word).mpr (integer?_of_delivered law encoded read)

namespace SigningCall.Execution

variable {call : SigningCall} {before after : Host} {output : List UInt8}

theorem nonce_integer? (law : ReadsSafeIntegers crates)
    (execution : Execution crates call before output after) :
    call.content.params.nonce.integer? = some (execution.ctx.nonce.toNat : Int) := by
  rw [execution.builds.nonce_eq]
  exact integer?_of_delivered law execution.encodes.nonce execution.delivers.nonce

theorem counterIs_period (law : ReadsSafeIntegers crates)
    (execution : Execution crates call before output after) :
    CounterIs call.content.params.period execution.ctx.period := by
  rw [execution.builds.period_eq]
  exact counterIs_of_delivered law execution.encodes.period execution.delivers.period

/-- The period that is signed is the one given. -/
theorem period_integer? (law : ReadsSafeIntegers crates)
    (execution : Execution crates call before output after)
    (positive : call.content.params.period.IsPositive) :
    call.content.params.period.integer? = some (execution.ctx.period.toNat : Int) := by
  have given : call.content.params.period ≠ .undefined := by
    intro absent
    rw [absent] at positive
    contradiction
  exact (counterIs_iff_of_ne given _).mp (execution.counterIs_period law)

theorem period_ne_zero (law : ReadsSafeIntegers crates)
    (execution : Execution crates call before output after)
    (positive : call.content.params.period.IsPositive) : execution.ctx.period ≠ 0 := by
  have above := pos_of_isPositive positive (execution.period_integer? law positive)
  rintro zero
  rw [zero] at above
  contradiction

theorem counterIs_blockNumber (law : ReadsSafeIntegers crates)
    (execution : Execution crates call before output after) :
    CounterIs call.content.params.blockNumber execution.ctx.blockNumber := by
  rw [execution.builds.blockNumber_eq]
  exact counterIs_of_delivered law execution.encodes.blockNumber execution.delivers.blockNumber

end SigningCall.Execution

end Stages

/-- A signing call that returns carries the nonce given and the era of the
period and the block number given, and signs both. -/
theorem counters_exact {crates : Crates} (law : ReadsSafeIntegers crates) {call : SigningCall}
    {before after : Host} {output : List UInt8}
    (ran : (call.serve crates).run before = (.ok output, after)) :
    ∃ extrinsic period block,
      Runtime.ReadsAs output extrinsic ∧
      call.content.params.nonce.integer? = some (extrinsic.nonce.toNat : Int) ∧
      CounterIs call.content.params.period period ∧
      CounterIs call.content.params.blockNumber block ∧
      extrinsic.era = .ofCounters period block ∧
      ∃ (ctx : SignContext) (checkpoint : Bytes32) (record : SignatureRecord),
        (ctx.nonce = extrinsic.nonce ∧ ctx.period = period ∧ ctx.blockNumber = block) ∧
        after.signatures = before.signatures ++ [record] ∧
        record.message =
          signedMessage crates (signingPayload extrinsic.call ctx extrinsic.era checkpoint) := by
  obtain ⟨execution⟩ := SigningCall.run_serve_eq_ok_iff.mp ran
  obtain ⟨extrinsic, carries⟩ := execution.exists_carries
  obtain ⟨checkpoint, record, _, logged, message_eq⟩ := carries.signs
  refine ⟨extrinsic, execution.ctx.period, execution.ctx.blockNumber, carries.reads, ?_,
    execution.counterIs_period law, execution.counterIs_blockNumber law, carries.era_eq,
    execution.ctx, checkpoint, record, ⟨carries.nonce_eq.symm, rfl, rfl⟩, logged, ?_⟩
  · rw [carries.nonce_eq]
    exact execution.nonce_integer? law
  · rw [message_eq, carries.call_eq]

end Js

namespace Reference

open Ecma Effect Ext Js

/-- A mortal call whose block number is a bigint. -/
def bigintCall : SigningCall where
  source := .seed (.uint8Array (List.replicate 32 1))
  content := .call (.uint8Array [2, 3])
    (callParams .undefined (.number (Number.ofInt (64 : Nat))) (.bigint (100 : Nat)))

theorem exists_run_bigintCall :
    ∃ output after, (bigintCall.serve crates).run Host.initial = (.ok output, after) := by
  have blockEncoded : unlessUndefined (.bigint (100 : Nat)) (Number.ofInt 0)
      (fun value => toNumber value "blockNumber") = .ok (Number.ofInt (100 : Nat)) :=
    @toNumber_ofInt 100 (by decide) "blockNumber"
  exact @exists_run_call _ _ 64 100 .mlDsa87 bigintCall.source _ _ _ Host.initial (by decide)
    (by decide) (counter_ofInt (by decide) "period") blockEncoded rfl rfl resolveEra_reference
    (by decide)

/-- It comes back with nonce 7 and the era of 64 blocks at block 100. -/
theorem counters_exact_bigintCall :
    ∃ output after extrinsic,
      (bigintCall.serve crates).run Host.initial = (.ok output, after) ∧
      Runtime.ReadsAs output extrinsic ∧
      extrinsic.nonce = 7 ∧ extrinsic.era = .ofCounters 64 100 := by
  obtain ⟨output, after, ran⟩ := exists_run_bigintCall
  obtain ⟨extrinsic, period, block, reads, nonce, periodIs, blockIs, era_eq, _⟩ :=
    counters_exact readsSafeIntegers ran
  have periodIs := (counterIs_iff_of_ne Value.noConfusion _).mp periodIs
  have blockIs := (counterIs_iff_of_ne Value.noConfusion _).mp blockIs
  have nonce_eq := eq_of_integer? nonce (@Number.integer?_ofInt_natCast 7 (by decide))
  have period_eq := eq_of_integer? periodIs (@Number.integer?_ofInt_natCast 64 (by decide))
  have block_eq := @eq_of_integer? _ _ 100 blockIs rfl
  rw [period_eq, block_eq] at era_eq
  exact ⟨output, after, extrinsic, ran, reads, nonce_eq, era_eq⟩

end Reference

end QuantusWasm
