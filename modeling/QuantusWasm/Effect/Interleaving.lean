import Mathlib.Data.List.Basic
import Mathlib.Logic.Function.Basic

/-!
# Clients of a moving world

Clients read a world that moves on between their steps, in any order of turns.
No client moves the world or sees another, so what one may rely on later is what
it read and which moves of the world lie between.
-/

namespace Effect

/-! ## Runs of a partial step -/

section Runs

variable {ω ι : Type}

/-- A run of a partial step that goes through in one state and leads to
another. -/
def Runs (step : ω → ι → Option ω) (inputs : List ι) (before after : ω) : Prop :=
  inputs.foldlM step before = some after

variable {step : ω → ι → Option ω} {before after : ω}

@[simp]
theorem runs_nil_iff : Runs step [] before after ↔ before = after := by
  simp [Runs]

theorem runs_cons_iff {input : ι} {inputs : List ι} :
    Runs step (input :: inputs) before after ↔
      ∃ middle, step before input = some middle ∧ Runs step inputs middle after := by
  simp only [Runs, List.foldlM_cons]
  exact Option.bind_eq_some_iff

theorem runs_append_iff {first second : List ι} :
    Runs step (first ++ second) before after ↔
      ∃ middle, Runs step first before middle ∧ Runs step second middle after := by
  simp only [Runs, List.foldlM_append]
  exact Option.bind_eq_some_iff

/-- One move more. -/
theorem Runs.concat {first second third : ω} {inputs : List ι} {input : ι}
    (ran : Runs step inputs first second) (moved : step second input = some third) :
    Runs step (inputs ++ [input]) first third :=
  runs_append_iff.mpr ⟨second, ran, runs_cons_iff.mpr ⟨third, moved, runs_nil_iff.mpr rfl⟩⟩

/-- What no move of a run lowers is no lower after it. -/
theorem Runs.le {measure : ω → Nat} {inputs : List ι} (ran : Runs step inputs before after)
    (grows : ∀ input ∈ inputs, ∀ state next, step state input = some next →
      measure state ≤ measure next) :
    measure before ≤ measure after := by
  induction inputs generalizing before with
  | nil => exact Nat.le_of_eq (congrArg measure (runs_nil_iff.mp ran))
  | cons input rest ih =>
      rcases runs_cons_iff.mp ran with ⟨middle, moved, later⟩
      apply Nat.le_trans (grows input (List.mem_cons_self ..) before middle moved)
      exact ih later fun other mem => grows other (List.mem_cons_of_mem _ mem)

end Runs

/-! ## Interleavings -/

section Interleaving

variable {ω σ ι κ : Type} [DecidableEq κ]

variable {step : ω → ι → Option ω} {advance : κ → ω → σ → Option σ}

end Interleaving

end Effect
