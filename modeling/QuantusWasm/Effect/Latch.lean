import QuantusWasm.Effect.Action

/-!
# Latches

A flag that is never cleared, with a count of how often it was set.  Setting it
is allowed only while it is clear, so over any run the count moves by at most
one, and the flag tells whether it did.
-/

namespace Effect

/-- A flag of a state and the count of its settings. -/
structure Latch (σ : Type) where
  isSet : σ → Bool
  count : σ → Nat

namespace Latch

variable {σ : Type}

/-- Flag and count stay as they are. -/
def Keeps (latch : Latch σ) (before after : σ) : Prop :=
  latch.isSet after = latch.isSet before ∧ latch.count after = latch.count before

/-- Nothing happens, or a clear flag is set and counted. -/
inductive MaySet (latch : Latch σ) (before after : σ) : Prop
  | keep (keeps : latch.Keeps before after)
  | set (clear : latch.isSet before = false) (isSet : latch.isSet after = true)
      (counted : latch.count after = latch.count before + 1)

variable {latch : Latch σ}

instance : Std.Refl latch.Keeps :=
  ⟨fun _ => ⟨rfl, rfl⟩⟩

instance : IsTrans σ latch.Keeps :=
  ⟨fun _ _ _ early late => ⟨late.1.trans early.1, late.2.trans early.2⟩⟩

instance : Std.Refl latch.MaySet :=
  ⟨fun state => .keep (Std.Refl.refl state)⟩

instance : IsTrans σ latch.MaySet := by
  constructor
  intro first second third early late
  cases early with
  | keep earlyKeeps =>
      cases late with
      | keep lateKeeps => exact .keep (IsTrans.trans _ _ _ earlyKeeps lateKeeps)
      | set clear isSet counted =>
          apply MaySet.set
          · rw [← earlyKeeps.1]
            exact clear
          · exact isSet
          · rw [counted, earlyKeeps.2]
  | set clear isSet counted =>
      cases late with
      | keep lateKeeps =>
          apply MaySet.set clear
          · rw [lateKeeps.1]
            exact isSet
          · rw [lateKeeps.2, counted]
      | set lateClear _ _ =>
          rw [isSet] at lateClear
          contradiction

/-- From a clear flag, the flag counts the settings. -/
theorem MaySet.count_eq {before after : σ} (maySet : latch.MaySet before after)
    (clear : latch.isSet before = false) :
    latch.count after = latch.count before + (latch.isSet after).toNat := by
  cases maySet with
  | keep keeps =>
      rw [keeps.1, keeps.2, clear]
      rfl
  | set _ isSet counted =>
      rw [counted, isSet]
      rfl

section Trace

variable {ι ε α : Type} {serve : ι → Action σ ε α} {state : σ}

/-- After any event of a run from a clear flag, the flag counts the settings. -/
theorem count_after_of_mem_trace (steps : ∀ request, (serve request).Steps latch.MaySet)
    (clear : latch.isSet state = false) {requests : List ι} {event : Event ι σ ε α}
    (mem : event ∈ trace serve requests state) :
    latch.count event.after = latch.count state + (latch.isSet event.after).toNat := by
  have moved := steps event.request event.before
  rw [run_eq_of_mem_trace mem] at moved
  have reached : latch.MaySet state event.after :=
    IsTrans.trans _ _ _ (relation_of_mem_trace steps mem) moved
  exact reached.count_eq clear

/-- A run from a clear flag sets it at most once. -/
theorem count_finish_le (steps : ∀ request, (serve request).Steps latch.MaySet)
    (clear : latch.isSet state = false) (requests : List ι) :
    latch.count (finish serve requests state) ≤ latch.count state + 1 := by
  have reached := relation_finish steps requests state
  rw [reached.count_eq clear]
  exact Nat.add_le_add_left (Bool.toNat_le _) _

end Trace

end Latch

end Effect
