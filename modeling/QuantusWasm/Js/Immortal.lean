import QuantusWasm.Effect.Latch
import QuantusWasm.Js.Counter

/-!
# Immortal extrinsics

A call without a period signs an extrinsic that never expires, and the first
such call in a process logs a warning.  The flag that keeps the warning from
repeating outlives calls, failed ones included, while the era is made from a
number two layers below.
-/

namespace QuantusWasm

namespace Js

open Ecma Effect Ext

/-- The flag of `warnImmortalOnce` and the warnings logged under it. -/
def immortalWarning : Latch Host where
  isSet := Host.warnedImmortal
  count := Host.warnings

/-! ## The warning -/

theorem maySet_noted (period : Value) (host : Host) :
    immortalWarning.MaySet host (noted period host) := by
  unfold noted
  split_ifs with warns
  · exact .set warns.2 rfl rfl
  · exact .keep (Std.Refl.refl host)

theorem keeps_noted {period : Value} (given : period ≠ .undefined) (host : Host) :
    immortalWarning.Keeps host (noted period host) := by
  rw [noted, if_neg fun both => given both.1]
  exact Std.Refl.refl host

theorem warnedImmortal_noted (host : Host) : (noted .undefined host).warnedImmortal = true := by
  unfold noted
  split_ifs with warns
  · rfl
  · simpa using warns

theorem keeps_derive (source : KeySource) (params : CallParams) (scheme : Scheme) (host : Host) :
    immortalWarning.Keeps host (source.derive params scheme host) := by
  cases source <;> exact ⟨rfl, rfl⟩

section Stages

variable {crates : Crates}

/-- Signing draws and records, and logs nothing. -/
theorem keeps_signCallWithKeypair (keypair : Keypair crates) (call : List UInt8)
    (ctx : SignContext) : (signCallWithKeypair keypair call ctx).Steps immortalWarning.Keeps := by
  intro before
  rcases ran : (signCallWithKeypair keypair call ctx).run before with ⟨result, after⟩
  cases (Request.signCallWithKeypair keypair call ctx).served_of_run ran <;> exact ⟨rfl, rfl⟩

namespace SigningCall

theorem serve_maySet (call : SigningCall) :
    (call.serve crates).Steps immortalWarning.MaySet := by
  apply serve_steps
  · exact maySet_noted _
  · exact fun host scheme _ => .keep (keeps_derive _ _ scheme host)
  · exact fun keypair bytes ctx _ host => .keep (keeps_signCallWithKeypair keypair bytes ctx host)

/-- A call with a period logs nothing, whether it returns or not. -/
theorem serve_keeps {call : SigningCall} (given : call.content.params.period ≠ .undefined) :
    (call.serve crates).Steps immortalWarning.Keeps := by
  apply serve_steps
  · exact keeps_noted given
  · exact fun host scheme _ => keeps_derive _ _ scheme host
  · exact fun keypair bytes ctx _ => keeps_signCallWithKeypair keypair bytes ctx

namespace Execution

variable {call : SigningCall} {before after : Host} {output : List UInt8}

/-- After a call without a period the warning is out. -/
theorem warnedImmortal_of_omitted (execution : Execution crates call before output after)
    (omitted : call.content.params.period = .undefined) : after.warnedImmortal = true := by
  have signing := keeps_signCallWithKeypair execution.keypair execution.bytes execution.ctx
    (call.source.derive call.content.params execution.scheme
      (noted call.content.params.period before))
  rw [execution.signed] at signing
  have derived := keeps_derive call.source call.content.params execution.scheme
    (noted call.content.params.period before)
  calc after.warnedImmortal
      = (noted call.content.params.period before).warnedImmortal := signing.1.trans derived.1
    _ = (noted .undefined before).warnedImmortal := by rw [omitted]
    _ = true := warnedImmortal_noted before

/-- An immortal era comes from a period of zero or from none. -/
theorem period_of_immortal (law : ReadsSafeIntegers crates)
    (execution : Execution crates call before output after)
    (immortal : Era.ofCounters execution.ctx.period execution.ctx.blockNumber = .Immortal) :
    call.content.params.period = .undefined ∨ call.content.params.period.integer? = some 0 := by
  have zero : execution.ctx.period = 0 := by
    by_contra nonzero
    rw [Era.ofCounters, if_neg nonzero, Era.mortal] at immortal
    contradiction
  by_cases given : call.content.params.period = .undefined
  · exact .inl given
  · have known := (counterIs_iff_of_ne given _).mp (execution.counterIs_period law)
    rw [zero] at known
    exact .inr known

/-- A positive period makes a mortal era. -/
theorem exists_mortal (law : ReadsSafeIntegers crates)
    (execution : Execution crates call before output after)
    (positive : call.content.params.period.IsPositive) :
    ∃ period phase, Era.ofCounters execution.ctx.period execution.ctx.blockNumber =
      .Mortal period phase := by
  rw [Era.ofCounters, if_neg (execution.period_ne_zero law positive)]
  exact ⟨_, _, rfl⟩

end Execution

end SigningCall

end Stages

/-- In a process that has not warned yet, whatever calls are made, an immortal
extrinsic comes from a period of zero, or from none and then the warning is
out; only calls without a period warn, and one warning is logged at most. -/
theorem immortal_never_silent {crates : Crates} (law : ReadsSafeIntegers crates) {start : Host}
    (fresh : start.warnedImmortal = false) (calls : List SigningCall) :
    (∀ event ∈ trace (SigningCall.serve crates) calls start, ∀ output,
      event.result = .ok output → ∃ extrinsic, Runtime.ReadsAs output extrinsic ∧
        (extrinsic.era = .Immortal →
          event.request.content.params.period.integer? = some 0 ∨
          event.request.content.params.period = .undefined ∧
            start.warnings < event.after.warnings) ∧
        (event.request.content.params.period.IsPositive →
          ∃ period phase, extrinsic.era = .Mortal period phase)) ∧
    (∀ event ∈ trace (SigningCall.serve crates) calls start,
      event.request.content.params.period ≠ .undefined →
        event.after.warnings = event.before.warnings) ∧
    (finish (SigningCall.serve crates) calls start).warnings ≤ start.warnings + 1 := by
  refine ⟨?_, ?_, ?_⟩
  · intro event mem output returned
    have ran := run_eq_of_mem_trace mem
    rw [returned] at ran
    obtain ⟨execution⟩ := SigningCall.run_serve_eq_ok_iff.mp ran
    obtain ⟨extrinsic, carries⟩ := execution.exists_carries
    refine ⟨extrinsic, carries.reads, ?_, ?_⟩
    · intro immortal
      rw [carries.era_eq] at immortal
      rcases execution.period_of_immortal law immortal with omitted | zero
      · have counted : event.after.warnings = start.warnings + event.after.warnedImmortal.toNat :=
          Latch.count_after_of_mem_trace SigningCall.serve_maySet fresh mem
        rw [execution.warnedImmortal_of_omitted omitted] at counted
        exact .inr ⟨omitted, Nat.lt_of_succ_le counted.ge⟩
      · exact .inl zero
    · intro positive
      rw [carries.era_eq]
      exact execution.exists_mortal law positive
  · intro event mem given
    have kept := @SigningCall.serve_keeps crates _ given event.before
    rw [run_eq_of_mem_trace mem] at kept
    exact kept.2
  · exact Latch.count_finish_le SigningCall.serve_maySet fresh calls

end Js

namespace Reference

open Ecma Effect Ext Js

/-- A call that leaves the period out. -/
def omittedCall : SigningCall where
  source := .seed (.uint8Array (List.replicate 32 1))
  content := .call (.uint8Array [2, 3]) (callParams .undefined .undefined .undefined)

theorem exists_run_omittedCall :
    ∃ output after, (omittedCall.serve crates).run Host.initial = (.ok output, after) := by
  have immortal : (contextOf 0 0 0).period = 0 := rfl
  exact @exists_run_call .undefined .undefined 0 0 .mlDsa87 omittedCall.source _ _ _ Host.initial
    (by decide) (by decide) rfl rfl rfl rfl (resolveEra_immortal immortal) (by decide)

/-- Its immortal extrinsic comes back together with one warning. -/
theorem immortal_never_silent_omittedCall :
    ∃ output after extrinsic, (omittedCall.serve crates).run Host.initial = (.ok output, after) ∧
      Runtime.ReadsAs output extrinsic ∧ extrinsic.era = .Immortal ∧ after.warnings = 1 := by
  obtain ⟨output, after, ran⟩ := exists_run_omittedCall
  obtain ⟨execution⟩ := SigningCall.run_serve_eq_ok_iff.mp ran
  obtain ⟨extrinsic, carries⟩ := execution.exists_carries
  have period_zero : execution.ctx.period = 0 :=
    (counterIs_undefined_iff _).mp (execution.counterIs_period readsSafeIntegers)
  have immortal : extrinsic.era = .Immortal := by
    rw [carries.era_eq, period_zero, Era.ofCounters, if_pos rfl]
  obtain ⟨returned, _, total⟩ :=
    @immortal_never_silent crates readsSafeIntegers Host.initial rfl [omittedCall]
  have mem : ⟨omittedCall, Host.initial, .ok output, after⟩ ∈
      trace (SigningCall.serve crates) [omittedCall] Host.initial := by
    simp only [trace, ran, List.mem_singleton]
  simp only [finish, ran] at total
  obtain ⟨other, otherReads, warned, _⟩ := returned _ mem output rfl
  cases otherReads.unique carries.reads
  have absent : omittedCall.content.params.period.integer? = none := rfl
  rcases warned immortal with explicit | ⟨_, logged⟩
  · exact absurd (explicit.symm.trans absent) (Option.some_ne_none 0)
  · exact ⟨output, after, extrinsic, ran, carries.reads, immortal, Nat.le_antisymm total logged⟩

end Reference

end QuantusWasm
