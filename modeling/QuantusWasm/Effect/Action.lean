import Mathlib.Order.Defs.Unbundled
import Mathlib.Data.List.Basic

/-!
# Fallible computations over an observable state

An action threads a state and either returns a value or fails.  Unlike an
option- or exception-valued state transformer, failure does not roll the state
back: what an aborted computation has already consumed, written or logged stays
visible.  The second half runs a finite sequence of requests one after the
other and lifts what one request does to the whole run.
-/

namespace Effect

/-! ## Results -/

/-- A chain of results succeeds exactly when each link does. -/
theorem bind_eq_ok_iff {ε α β : Type} {result : Except ε α} {next : α → Except ε β} {value : β} :
    result >>= next = .ok value ↔ ∃ middle, result = .ok middle ∧ next middle = .ok value := by
  cases result with
  | ok middle =>
      change next middle = .ok value ↔ _
      simp
  | error failure =>
      change (Except.error failure : Except ε β) = .ok value ↔ _
      simp

/-- It fails where its first link to fail does. -/
theorem bind_eq_error_iff {ε α β : Type} {result : Except ε α} {next : α → Except ε β}
    {failure : ε} :
    result >>= next = .error failure ↔
      result = .error failure ∨ ∃ middle, result = .ok middle ∧ next middle = .error failure := by
  cases result with
  | ok middle =>
      change next middle = .error failure ↔ _
      simp
  | error first =>
      change (Except.error first : Except ε β) = .error failure ↔ _
      simp

theorem mapError_eq_error_iff {ε ε' α : Type} {convert : ε → ε'} {result : Except ε α}
    {failure : ε'} :
    result.mapError convert = .error failure ↔
      ∃ source, result = .error source ∧ convert source = failure := by
  cases result <;> simp [Except.mapError]

theorem map_eq_error_iff {ε α β : Type} {convert : α → β} {result : Except ε α} {failure : ε} :
    result.map convert = .error failure ↔ result = .error failure := by
  cases result <;> simp [Except.map]

/-- A check that says what is wrong, and only when it is. -/
theorem error_eq_error_iff {ε α : Type} {thrown failure : ε} {good : Prop} (bad : ¬good) :
    (.error failure : Except ε α) = .error thrown ↔ thrown = failure ∧ ¬good := by
  rw [Except.error.injEq]
  exact ⟨fun same => ⟨same.symm, bad⟩, fun both => both.1.symm⟩

theorem ok_eq_error_iff {ε α : Type} {value : α} {thrown failure : ε} {good : Prop} (fine : good) :
    (.ok value : Except ε α) = .error thrown ↔ thrown = failure ∧ ¬good := by
  constructor
  · intro refused
    contradiction
  · exact fun both => absurd fine both.2

/-- Where such a check passes, nothing is wrong. -/
theorem good_of_ok {ε α : Type} {result : Except ε α} {failure : ε} {good : Prop} {value : α}
    (refuses : ∀ thrown, result = .error thrown ↔ thrown = failure ∧ ¬good)
    (passed : result = .ok value) : good := by
  by_contra bad
  rw [passed] at refuses
  have refused := (refuses failure).mpr ⟨rfl, bad⟩
  contradiction

theorem mapError_eq_ok_iff {ε ε' α : Type} {convert : ε → ε'} {result : Except ε α} {value : α} :
    result.mapError convert = .ok value ↔ result = .ok value := by
  cases result <;> simp [Except.mapError]

theorem map_eq_ok_iff {ε α β : Type} {convert : α → β} {result : Except ε α} {value : β} :
    result.map convert = .ok value ↔ ∃ source, result = .ok source ∧ convert source = value := by
  cases result <;> simp [Except.map]

/-! ## Actions -/

/-- A computation over the state `σ` that returns an `α` or fails with an `ε`. -/
def Action (σ ε α : Type) : Type :=
  σ → Except ε α × σ

namespace Action

variable {σ ε ε' α β : Type}

/-- The outcome of an action and the state it leaves behind. -/
def run (action : Action σ ε α) (state : σ) : Except ε α × σ :=
  action state

instance : Monad (Action σ ε) where
  pure value := fun state => (.ok value, state)
  bind action next := fun state =>
    match action state with
    | (.ok value, reached) => next value reached
    | (.error failure, reached) => (.error failure, reached)

/-- Fail without touching the state. -/
def throw (failure : ε) : Action σ ε α :=
  fun state => (.error failure, state)

/-- A result computed without looking at the state. -/
def ofExcept (result : Except ε α) : Action σ ε α :=
  fun state => (result, state)

/-- Read a value off the state. -/
def query (read : σ → α) : Action σ ε α :=
  fun state => (.ok (read state), state)

/-- Change the state. -/
def update (change : σ → σ) : Action σ ε Unit :=
  fun state => (.ok (), change state)

/-- Translate failures. -/
def mapError (convert : ε → ε') (action : Action σ ε α) : Action σ ε' α :=
  fun state => ((action state).1.mapError convert, (action state).2)

@[simp]
theorem run_pure (value : α) (state : σ) :
    (pure value : Action σ ε α).run state = (.ok value, state) :=
  rfl

@[simp]
theorem run_throw (failure : ε) (state : σ) :
    (throw failure : Action σ ε α).run state = (.error failure, state) :=
  rfl

@[simp]
theorem run_ofExcept (result : Except ε α) (state : σ) :
    (ofExcept result : Action σ ε α).run state = (result, state) :=
  rfl

@[simp]
theorem run_query (read : σ → α) (state : σ) :
    (query read : Action σ ε α).run state = (.ok (read state), state) :=
  rfl

@[simp]
theorem run_update (change : σ → σ) (state : σ) :
    (update change : Action σ ε Unit).run state = (.ok (), change state) :=
  rfl

@[simp]
theorem run_mapError (convert : ε → ε') (action : Action σ ε α) (state : σ) :
    (action.mapError convert).run state =
      ((action.run state).1.mapError convert, (action.run state).2) :=
  rfl

theorem run_bind (action : Action σ ε α) (next : α → Action σ ε β) (state : σ) :
    (action >>= next).run state =
      match action.run state with
      | (.ok value, reached) => (next value).run reached
      | (.error failure, reached) => (.error failure, reached) :=
  rfl

theorem run_bind_of_ok {action : Action σ ε α} {state reached : σ} {value : α}
    (ran : action.run state = (.ok value, reached)) (next : α → Action σ ε β) :
    (action >>= next).run state = (next value).run reached := by
  change (match action.run state with
    | (.ok value, reached) => next value reached
    | (.error failure, reached) => (.error failure, reached)) = next value reached
  rw [ran]

theorem run_bind_of_error {action : Action σ ε α} {state reached : σ} {failure : ε}
    (ran : action.run state = (.error failure, reached)) (next : α → Action σ ε β) :
    (action >>= next).run state = (.error failure, reached) := by
  change (match action.run state with
    | (.ok value, reached) => next value reached
    | (.error failure, reached) => (.error failure, reached)) = _
  rw [ran]

/-- A sequence returns exactly when both halves do, the second from the state
the first one left. -/
theorem run_bind_eq_ok_iff {action : Action σ ε α} {next : α → Action σ ε β}
    {state final : σ} {value : β} :
    (action >>= next).run state = (.ok value, final) ↔
      ∃ middle reached, action.run state = (.ok middle, reached) ∧
        (next middle).run reached = (.ok value, final) := by
  rcases ran : action.run state with ⟨result, reached⟩
  cases result with
  | ok middle => simp [run_bind_of_ok ran]
  | error failure => simp [run_bind_of_error ran]

theorem run_ofExcept_bind_eq_ok_iff {result : Except ε α} {next : α → Action σ ε β}
    {state final : σ} {value : β} :
    (ofExcept result >>= next).run state = (.ok value, final) ↔
      ∃ middle, result = .ok middle ∧ (next middle).run state = (.ok value, final) := by
  rw [run_bind_eq_ok_iff]
  constructor
  · rintro ⟨middle, reached, ran, rest⟩
    cases ran
    exact ⟨middle, rfl, rest⟩
  · rintro ⟨middle, rfl, rest⟩
    exact ⟨middle, state, rfl, rest⟩

theorem run_mapError_eq_ok_iff {convert : ε → ε'} {action : Action σ ε α}
    {state final : σ} {value : α} :
    (action.mapError convert).run state = (.ok value, final) ↔
      action.run state = (.ok value, final) := by
  rcases ran : action.run state with ⟨result, reached⟩
  cases result <;> simp [ran, Except.mapError]

/-! ## What an action may do to the state -/

/-- Every run of the action, failing or not, relates its first state to its
last. -/
def Steps (relation : σ → σ → Prop) (action : Action σ ε α) : Prop :=
  ∀ state, relation state (action.run state).2

theorem Steps.pure {relation : σ → σ → Prop} [Std.Refl relation] (value : α) :
    Steps relation (Pure.pure value : Action σ ε α) :=
  fun state => Std.Refl.refl state

theorem Steps.throw {relation : σ → σ → Prop} [Std.Refl relation] (failure : ε) :
    Steps relation (Action.throw failure : Action σ ε α) :=
  fun state => Std.Refl.refl state

theorem Steps.ofExcept {relation : σ → σ → Prop} [Std.Refl relation]
    (result : Except ε α) : Steps relation (Action.ofExcept result : Action σ ε α) :=
  fun state => Std.Refl.refl state

theorem Steps.query {relation : σ → σ → Prop} [Std.Refl relation] (read : σ → α) :
    Steps relation (Action.query read : Action σ ε α) :=
  fun state => Std.Refl.refl state

theorem Steps.mapError {relation : σ → σ → Prop} {action : Action σ ε α}
    (steps : Steps relation action) (convert : ε → ε') :
    Steps relation (action.mapError convert) :=
  steps

/-- The second half only has to respect the relation on values the first half
can return. -/
theorem Steps.bind_of_returned {relation : σ → σ → Prop} [IsTrans σ relation]
    {action : Action σ ε α} {next : α → Action σ ε β} (first : Steps relation action)
    (second : ∀ value, (∃ state reached, action.run state = (.ok value, reached)) →
      Steps relation (next value)) : Steps relation (action >>= next) := by
  intro state
  have reached_step := first state
  rcases ran : action.run state with ⟨result, reached⟩
  rw [ran] at reached_step
  cases result with
  | ok value =>
      rw [run_bind_of_ok ran]
      exact IsTrans.trans _ _ _ reached_step (second value ⟨state, reached, ran⟩ reached)
  | error failure =>
      rw [run_bind_of_error ran]
      exact reached_step

theorem Steps.bind {relation : σ → σ → Prop} [IsTrans σ relation]
    {action : Action σ ε α} {next : α → Action σ ε β}
    (first : Steps relation action) (second : ∀ value, Steps relation (next value)) :
    Steps relation (action >>= next) :=
  first.bind_of_returned fun value _ => second value

theorem Steps.ofExcept_bind {relation : σ → σ → Prop} [Std.Refl relation] [IsTrans σ relation]
    {result : Except ε α} {next : α → Action σ ε β}
    (second : ∀ value, result = .ok value → Steps relation (next value)) :
    Steps relation (Action.ofExcept result >>= next) := by
  refine Steps.bind_of_returned (Steps.ofExcept result) ?_
  rintro value ⟨state, reached, ran⟩
  exact second value (Prod.mk.inj ran).1

end Action

/-! ## Runs of several requests -/

/-- One request of a run, with the states around it and its outcome. -/
structure Event (ι σ ε α : Type) where
  request : ι
  before : σ
  result : Except ε α
  after : σ

section Trace

variable {ι σ ε α : Type}

/-- Serve the requests in order; a failed request does not stop the run. -/
def trace (serve : ι → Action σ ε α) : List ι → σ → List (Event ι σ ε α)
  | [], _ => []
  | request :: rest, state =>
      ⟨request, state, ((serve request).run state).1, ((serve request).run state).2⟩ ::
        trace serve rest ((serve request).run state).2

/-- Each event of a trace is a run of its own request. -/
theorem run_eq_of_mem_trace {serve : ι → Action σ ε α} {requests : List ι} {state : σ}
    {event : Event ι σ ε α} (mem : event ∈ trace serve requests state) :
    (serve event.request).run event.before = (event.result, event.after) := by
  induction requests generalizing state with
  | nil => simp [trace] at mem
  | cons request rest ih =>
      rcases List.mem_cons.mp mem with rfl | later
      · rfl
      · exact ih later

/-- States along a trace only move along a preorder that every request
respects. -/
theorem relation_of_mem_trace {relation : σ → σ → Prop} [Std.Refl relation]
    [IsTrans σ relation] {serve : ι → Action σ ε α}
    (steps : ∀ request, (serve request).Steps relation) {requests : List ι} {state : σ}
    {event : Event ι σ ε α} (mem : event ∈ trace serve requests state) :
    relation state event.before := by
  induction requests generalizing state with
  | nil => simp [trace] at mem
  | cons request rest ih =>
      rcases List.mem_cons.mp mem with rfl | later
      · exact Std.Refl.refl _
      · exact IsTrans.trans _ _ _ (steps request state) (ih later)

/-- The state after all requests. -/
def finish (serve : ι → Action σ ε α) : List ι → σ → σ
  | [], state => state
  | request :: rest, state => finish serve rest ((serve request).run state).2

theorem relation_finish {relation : σ → σ → Prop} [Std.Refl relation] [IsTrans σ relation]
    {serve : ι → Action σ ε α} (steps : ∀ request, (serve request).Steps relation)
    (requests : List ι) (state : σ) : relation state (finish serve requests state) := by
  induction requests generalizing state with
  | nil => exact Std.Refl.refl _
  | cons request rest ih => exact IsTrans.trans _ _ _ (steps request state) (ih _)

/-- Every event of a trace ends before, along the preorder, the run does. -/
theorem relation_finish_of_mem_trace {relation : σ → σ → Prop} [Std.Refl relation]
    [IsTrans σ relation] {serve : ι → Action σ ε α}
    (steps : ∀ request, (serve request).Steps relation) {requests : List ι} {state : σ}
    {event : Event ι σ ε α} (mem : event ∈ trace serve requests state) :
    relation event.after (finish serve requests state) := by
  induction requests generalizing state with
  | nil => simp [trace] at mem
  | cons request rest ih =>
      rcases List.mem_cons.mp mem with rfl | later
      · exact relation_finish steps rest _
      · exact ih later

/-- An earlier event ends where, along the preorder, a later one begins. -/
theorem trace_pairwise {relation : σ → σ → Prop} [Std.Refl relation]
    [IsTrans σ relation] {serve : ι → Action σ ε α}
    (steps : ∀ request, (serve request).Steps relation) (requests : List ι) (state : σ) :
    (trace serve requests state).Pairwise fun earlier later =>
      relation earlier.after later.before := by
  induction requests generalizing state with
  | nil => exact List.Pairwise.nil
  | cons request rest ih =>
      exact List.Pairwise.cons (fun later mem => relation_of_mem_trace steps mem) (ih _)

end Trace

end Effect
