import QuantusWasm.Effect.Action

/-!
# Checks in order

A check is the property of being a complaint of it.  Of several checks, made one
after the other, the first that complains decides.  A computation is checked by
a list when it fails with exactly the first complaint of the list, and a chain
of computations is checked by their lists one after the other.
-/

namespace Effect

/-! ## The first complaint -/

section First

variable {γ : Type}

/-- A complaint of the first check that has any. -/
inductive First : List (γ → Prop) → γ → Prop
  | here {check : γ → Prop} {rest : List (γ → Prop)} {complaint : γ}
      (complains : check complaint) : First (check :: rest) complaint
  | later {check : γ → Prop} {rest : List (γ → Prop)} {complaint : γ}
      (silent : ∀ other, ¬check other) (first : First rest complaint) :
      First (check :: rest) complaint

variable {check : γ → Prop} {front back rest : List (γ → Prop)} {complaint : γ}

@[simp]
theorem not_first_nil : ¬First [] complaint :=
  nofun

theorem first_cons_iff :
    First (check :: rest) complaint ↔
      check complaint ∨ (∀ other, ¬check other) ∧ First rest complaint := by
  constructor
  · intro first
    cases first with
    | here complains => exact .inl complains
    | later silent first => exact .inr ⟨silent, first⟩
  · rintro (complains | ⟨silent, first⟩)
    · exact .here complains
    · exact .later silent first

theorem first_singleton_iff : First [check] complaint ↔ check complaint := by
  simp [first_cons_iff]

/-- A check that complains decides. -/
theorem first_cons_of_eq {only : γ} (complains : ∀ other, check other ↔ other = only) :
    First (check :: rest) complaint ↔ complaint = only := by
  rw [first_cons_iff, complains]
  constructor
  · rintro (same | ⟨silent, _⟩)
    · exact same
    · exact absurd ((complains only).mpr rfl) (silent only)
  · exact .inl

/-- A silent check leaves it to the others. -/
theorem first_cons_of_silent (silent : ∀ other, ¬check other) :
    First (check :: rest) complaint ↔ First rest complaint := by
  rw [first_cons_iff]
  simp [silent]

/-- A list is silent when each of its checks is. -/
theorem silent_cons_iff :
    (∀ other, ¬First (check :: rest) other) ↔
      (∀ other, ¬check other) ∧ ∀ other, ¬First rest other := by
  simp only [first_cons_iff, not_or, not_and, forall_and]
  constructor
  · rintro ⟨silent, rest_silent⟩
    exact ⟨silent, fun other => rest_silent other silent⟩
  · rintro ⟨silent, rest_silent⟩
    exact ⟨silent, fun other _ => rest_silent other⟩

/-- The back of a list has its say when the front is silent. -/
theorem first_append_iff :
    First (front ++ back) complaint ↔
      First front complaint ∨ (∀ other, ¬First front other) ∧ First back complaint := by
  induction front with
  | nil => simp
  | cons check rest ih =>
      rw [List.cons_append, first_cons_iff, first_cons_iff, ih, silent_cons_iff]
      tauto

end First

/-! ## Results -/

section Results

variable {ε ε' α β : Type} {checks front back : List (ε → Prop)} {result : Except ε α}

/-- The result is a failure with the first complaint, if there is any. -/
def Checked (checks : List (ε → Prop)) (result : Except ε α) : Prop :=
  ∀ failure, result = .error failure ↔ First checks failure

theorem Checked.silent (checked : Checked checks result) {value : α} (passed : result = .ok value)
    (failure : ε) : ¬First checks failure := by
  rw [← checked failure, passed]
  exact nofun

theorem checked_ok (value : α) : Checked [] (.ok value : Except ε α) := by
  intro failure
  simp

theorem checked_singleton {check : ε → Prop}
    (refuses : ∀ failure, result = .error failure ↔ check failure) : Checked [check] result := by
  intro failure
  rw [refuses, first_singleton_iff]

/-- The second computation may rely on what the first returned. -/
theorem Checked.bind {next : α → Except ε β} (first : Checked front result)
    (second : ∀ value, result = .ok value → Checked back (next value)) :
    Checked (front ++ back) (result >>= next) := by
  intro failure
  rw [first_append_iff, bind_eq_error_iff]
  cases passed : result with
  | error refused =>
      have complained := (first refused).mp passed
      simp only [Except.error.injEq, reduceCtorEq, false_and, exists_false, or_false]
      constructor
      · rintro rfl
        exact .inl complained
      · rintro (complains | ⟨silent, _⟩)
        · exact Except.error.inj (passed.symm.trans ((first failure).mpr complains))
        · exact absurd complained (silent refused)
  | ok value =>
      have silent := first.silent passed
      simp only [reduceCtorEq, Except.ok.injEq, exists_eq_left', false_or, silent failure,
        silent, not_false_eq_true, implies_true, true_and]
      exact second value passed failure

/-- The first computation makes one check. -/
theorem checked_cons_bind {check : ε → Prop} {rest : List (ε → Prop)} {next : α → Except ε β}
    (refuses : ∀ failure, result = .error failure ↔ check failure)
    (second : ∀ value, result = .ok value → Checked rest (next value)) :
    Checked (check :: rest) (result >>= next) :=
  (checked_singleton refuses).bind second

/-- A condition is one check. -/
theorem checked_cons_ite {bad : Prop} [Decidable bad] {check : ε → Prop} {rest : List (ε → Prop)}
    {failure : ε} (complains : ∀ other, check other ↔ other = failure ∧ bad)
    (second : ¬bad → Checked rest result) :
    Checked (check :: rest) (if bad then .error failure else result) := by
  intro other
  rw [first_cons_iff, complains]
  simp only [complains]
  split_ifs with isBad
  · simp [isBad, eq_comm]
  · simp only [isBad, and_false, not_false_eq_true, implies_true, true_and, false_or]
    exact second isBad other

/-- What only packs the value adds no check. -/
theorem Checked.bind_ok (checked : Checked checks result) (convert : α → β) :
    Checked checks (result >>= fun value => .ok (convert value)) := by
  rw [← List.append_nil checks]
  exact checked.bind fun value _ => checked_ok _

theorem Checked.map (checked : Checked checks result) (convert : α → β) :
    Checked checks (result.map convert) := by
  intro failure
  rw [map_eq_error_iff]
  exact checked failure

end Results

/-! ## Actions -/

namespace Action

variable {σ ε α β : Type} {state : σ}

/-- From this state the action fails with the first complaint, if there is any.
A complaint names the failure and the state that it leaves. -/
def Checked (checks : List (ε × σ → Prop)) (action : Action σ ε α) (state : σ) : Prop :=
  ∀ failure reached,
    action.run state = (.error failure, reached) ↔ First checks (failure, reached)

/-- The complaints of a check that leaves this state. -/
def leaving (state : σ) (check : ε → Prop) (complaint : ε × σ) : Prop :=
  check complaint.1 ∧ complaint.2 = state

theorem first_map_leaving_iff {checks : List (ε → Prop)} {failure : ε} {reached : σ} :
    First (checks.map (leaving state)) (failure, reached) ↔
      First checks failure ∧ reached = state := by
  have silent_iff (check : ε → Prop) :
      (∀ complaint, ¬leaving state check complaint) ↔ ∀ other, ¬check other := by
    constructor
    · exact fun silent other complains => silent (other, state) ⟨complains, rfl⟩
    · exact fun silent complaint complains => silent _ complains.1
  induction checks with
  | nil => simp
  | cons check rest ih =>
      simp only [List.map_cons, first_cons_iff, ih, silent_iff]
      simp only [leaving]
      tauto

theorem checked_ofExcept {checks : List (ε → Prop)} {result : Except ε α}
    (checked : Effect.Checked checks result) :
    Checked (checks.map (leaving state)) (ofExcept result) state := by
  intro failure reached
  rw [run_ofExcept, Prod.mk.injEq, checked, first_map_leaving_iff, eq_comm (a := state)]

theorem Checked.bind {front back : List (ε × σ → Prop)} {action : Action σ ε α}
    {next : α → Action σ ε β} (first : Checked front action state)
    (second : ∀ value reached, action.run state = (.ok value, reached) →
      Checked back (next value) reached) :
    Checked (front ++ back) (action >>= next) state := by
  intro failure final
  rw [first_append_iff]
  rcases ran : action.run state with ⟨result, reached⟩
  cases result with
  | error refused =>
      have complained := (first refused reached).mp ran
      rw [run_bind_of_error ran]
      constructor
      · rintro ⟨⟩
        exact .inl complained
      · rintro (complains | ⟨silent, _⟩)
        · cases ran.symm.trans ((first failure final).mpr complains)
          rfl
        · exact absurd complained (silent _)
  | ok value =>
      have silent (other : ε × σ) : ¬First front other := by
        rw [← first other.1 other.2, ran]
        exact nofun
      rw [run_bind_of_ok ran]
      simp only [silent, not_false_eq_true, implies_true, true_and, false_or]
      exact second value reached ran failure final

/-- A computation that leaves the state alone checks before the rest does. -/
theorem checked_ofExcept_bind {front : List (ε → Prop)} {back : List (ε × σ → Prop)}
    {result : Except ε α} {next : α → Action σ ε β} (first : Effect.Checked front result)
    (second : ∀ value, result = .ok value → Checked back (next value) state) :
    Checked (front.map (leaving state) ++ back) (ofExcept result >>= next) state := by
  refine (checked_ofExcept first).bind fun value reached ran => ?_
  rw [run_ofExcept, Prod.mk.injEq] at ran
  rcases ran with ⟨passed, rfl⟩
  exact second value passed

/-- A failing run ends with one complaint. -/
theorem error_mk_eq_iff {failure other : ε} {reached : σ} :
    ((.error other : Except ε α), state) = (.error failure, reached) ↔
      (failure, reached) = (other, state) := by
  simp only [Prod.mk.injEq, Except.error.injEq]
  exact and_congr eq_comm eq_comm

/-- What cannot fail adds no check. -/
theorem checked_update_bind {checks : List (ε × σ → Prop)} {change : σ → σ}
    {next : Unit → Action σ ε β} (second : Checked checks (next ()) (change state)) :
    Checked checks (update change >>= next) state :=
  second

end Action

end Effect
