import QuantusWasm.Effect.Action
import Mathlib.Algebra.GroupWithZero.Nat
import Mathlib.Data.List.Forall2

/-!
# Logs

A log is a part of the state that only grows.  Over a run it grows by what each
request appends, in order.  Where entries are made at the ticks of a clock that
never goes back, each entry of a run has a tick of its own, and later entries
have later ones.
-/

namespace Effect

variable {σ ρ : Type}

/-- The log grows by these entries. -/
def Appends (log : σ → List ρ) (entries : List ρ) (before after : σ) : Prop :=
  log after = log before ++ entries

theorem Appends.unique {log : σ → List ρ} {first second : List ρ} {before after : σ}
    (appendsFirst : Appends log first before after)
    (appendsSecond : Appends log second before after) : first = second :=
  List.append_cancel_left (appendsFirst.symm.trans appendsSecond)

/-! ## Ticks -/

/-- The log grows by entries made at ticks of the clock, a different tick each,
and in their order. -/
structure Ticks (clock : σ → Nat) (made : Nat → ρ → Prop) (ticks : List Nat) (entries : List ρ)
    (before after : σ) : Prop where
  each : List.Forall₂ made ticks entries
  sorted : ticks.Pairwise (· < ·)
  between : ∀ tick ∈ ticks, clock before ≤ tick ∧ tick < clock after
  forward : clock before ≤ clock after

/-- The log grows by entries made at ticks of their own. -/
def Stamped (log : σ → List ρ) (clock : σ → Nat) (made : Nat → ρ → Prop) (before after : σ) :
    Prop :=
  ∃ ticks entries, Appends log entries before after ∧ Ticks clock made ticks entries before after

variable {log : σ → List ρ} {clock : σ → Nat} {made : Nat → ρ → Prop}

/-- Nothing was appended. -/
theorem Stamped.quiet {before after : σ} (log_eq : log after = log before)
    (forward : clock before ≤ clock after) : Stamped log clock made before after :=
  ⟨[], [], by rw [Appends, log_eq, List.append_nil],
    ⟨.nil, .nil, fun _ mem => absurd mem List.not_mem_nil, forward⟩⟩

/-- One entry was made at the one tick that passed. -/
theorem Stamped.tick {before after : σ} {entry : ρ} (appended : Appends log [entry] before after)
    (passed : clock after = clock before + 1) (was : made (clock before) entry) :
    Stamped log clock made before after := by
  refine ⟨[clock before], [entry], appended, .cons was .nil, List.pairwise_singleton _ _, ?_, ?_⟩
  · intro tick mem
    rw [List.mem_singleton.mp mem]
    omega
  · omega

instance : Std.Refl (Stamped log clock made) :=
  ⟨fun _ => Stamped.quiet rfl (Nat.le_refl _)⟩

instance : IsTrans σ (Stamped log clock made) := by
  constructor
  rintro first second third ⟨early, earlyEntries, earlyAppended, earlyTicks⟩
    ⟨late, lateEntries, lateAppended, lateTicks⟩
  have early_forward := earlyTicks.forward
  have late_forward := lateTicks.forward
  refine ⟨early ++ late, earlyEntries ++ lateEntries, ?_,
    List.rel_append earlyTicks.each lateTicks.each, ?_, ?_, Nat.le_trans early_forward late_forward⟩
  · rw [Appends, lateAppended, earlyAppended, List.append_assoc]
  · rw [List.pairwise_append]
    refine ⟨earlyTicks.sorted, lateTicks.sorted, ?_⟩
    intro tick mem later laterMem
    have ended := (earlyTicks.between tick mem).2
    have begun := (lateTicks.between later laterMem).1
    omega
  · intro tick mem
    rcases List.mem_append.mp mem with mem | mem
    · have within := earlyTicks.between tick mem
      omega
    · have within := lateTicks.between tick mem
      omega

/-! ## Runs -/

/-- What stands in one list is related to something in the other. -/
theorem exists_of_forall₂_of_mem {α β : Type} {related : α → β → Prop} {left : List α}
    {right : List β} (each : List.Forall₂ related left right) {first : α} (mem : first ∈ left) :
    ∃ second ∈ right, related first second := by
  induction each with
  | nil => exact absurd mem List.not_mem_nil
  | @cons head other _ _ rel _ ih =>
      rcases List.mem_cons.mp mem with rfl | later
      · exact ⟨other, List.mem_cons_self .., rel⟩
      · rcases ih later with ⟨second, secondMem, rel⟩
        exact ⟨second, List.mem_cons_of_mem _ secondMem, rel⟩

section Trace

variable {ι ε α : Type} {serve : ι → Action σ ε α}

/-- A trace serves what was requested. -/
theorem request_mem_of_mem_trace {requests : List ι} {state : σ} {event : Event ι σ ε α}
    (mem : event ∈ trace serve requests state) : event.request ∈ requests := by
  induction requests generalizing state with
  | nil => exact absurd mem List.not_mem_nil
  | cons request rest ih =>
      rcases List.mem_cons.mp mem with rfl | later
      · exact List.mem_cons_self ..
      · exact List.mem_cons_of_mem _ (ih later)

/-- A run appends what its requests append, one after the other. -/
theorem exists_appends_finish {emits : Event ι σ ε α → List ρ → Prop}
    (step : ∀ request state, ∃ entries,
      Appends log entries state ((serve request).run state).2 ∧
        emits ⟨request, state, ((serve request).run state).1, ((serve request).run state).2⟩
          entries)
    (requests : List ι) (state : σ) :
    ∃ pieces, List.Forall₂ emits (trace serve requests state) pieces ∧
      Appends log pieces.flatten state (finish serve requests state) := by
  induction requests generalizing state with
  | nil => exact ⟨[], .nil, (List.append_nil _).symm⟩
  | cons request rest ih =>
      obtain ⟨entries, appended, emitted⟩ := step request state
      obtain ⟨pieces, each, later⟩ := ih ((serve request).run state).2
      refine ⟨entries :: pieces, .cons emitted each, ?_⟩
      rw [Appends, finish, later, appended, List.append_assoc, List.flatten_cons]

/-- A run costs at most what its requests do. -/
theorem clock_finish_le {cost : ι → Nat}
    (step : ∀ request state, clock ((serve request).run state).2 ≤ clock state + cost request)
    (requests : List ι) (state : σ) :
    clock (finish serve requests state) ≤ clock state + (requests.map cost).sum := by
  induction requests generalizing state with
  | nil => exact Nat.le_add_right _ _
  | cons request rest ih =>
      have first := step request state
      have others := ih ((serve request).run state).2
      rw [finish, List.map_cons, List.sum_cons]
      omega

end Trace

end Effect
