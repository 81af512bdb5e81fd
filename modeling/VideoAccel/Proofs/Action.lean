import VideoAccel.Action

/-!
Runs of actions, step by step.

The first part computes a run through its first step: `bind_of_ok` when that step answers, whatever
a refusal would be, and `bind_of_error` when it is refused with a `Fault`. The second part is about
what a run keeps, whether it answers or is refused halfway: `Keeps R action` says that every run of
the action leads to a state related to the one it started from. With a reflexive and transitive
relation a sequence keeps what its steps keep, so that a long action is treated one step at a time.
-/

namespace VideoAccel.Action

variable {ε σ τ α β : Type}

/-! ### Single steps -/

theorem bind_of_ok {action : EStateM ε σ α} {state middle : σ} {value : α}
    (ran : action state = .ok value middle) (next : α → EStateM ε σ β) :
    (action >>= next) state = next value middle := by
  show EStateM.bind action next state = _
  rw [EStateM.bind, ran]

theorem bind_of_error {action : Action σ α} {state middle : σ} {fault : Fault}
    (ran : action state = .error fault middle) (next : α → Action σ β) :
    (action >>= next) state = .error fault middle := by
  show EStateM.bind action next state = _
  rw [EStateM.bind, ran]

@[simp] theorem get_run (state : σ) : (get : EStateM ε σ σ) state = .ok state state := rfl

@[simp] theorem set_run (next state : σ) : (set next : EStateM ε σ PUnit) state = .ok ⟨⟩ next := rfl

@[simp] theorem modify_run (change : σ → σ) (state : σ) :
    (modify change : EStateM ε σ PUnit) state = .ok ⟨⟩ (change state) := rfl

theorem on_of_ok {get : σ → τ} {put : τ → σ → σ} {action : Action τ α} {state : σ} {value : α}
    {part : τ} (ran : action (get state) = .ok value part) :
    on get put action state = .ok value (put part state) := by
  rw [on, ran]

theorem on_of_error {get : σ → τ} {put : τ → σ → σ} {action : Action τ α} {state : σ}
    {fault : Fault} {part : τ} (ran : action (get state) = .error fault part) :
    on get put action state = .error fault (put part state) := by
  rw [on, ran]

/-- Working on a part step by step is working on it as a whole. -/
theorem on_bind (get : σ → τ) (put : τ → σ → σ) (get_put : ∀ part state, get (put part state) = part)
    (put_put : ∀ part other state, put part (put other state) = put part state)
    (action : Action τ α) (next : α → Action τ β) :
    on get put (action >>= next) = on get put action >>= fun value => on get put (next value) := by
  funext state
  cases ran : action (get state) with
  | error fault part =>
      rw [on_of_error (Action.bind_of_error ran next), bind_of_error (on_of_error ran)]
  | ok value part =>
      rw [bind_of_ok (on_of_ok ran)]
      unfold on
      rw [bind_of_ok ran, get_put]
      cases next value part with
      | ok value part => simp only [put_put]
      | error fault part => simp only [put_put]

/-- A sequence answers when its first step answers and then the rest does. -/
theorem bind_eq_ok_iff {action : Action σ α} {next : α → Action σ β} {state final : σ} {value : β} :
    (action >>= next) state = .ok value final ↔
      ∃ first middle, action state = .ok first middle ∧ next first middle = .ok value final := by
  cases ran : action state with
  | ok first middle =>
      rw [bind_of_ok ran]
      constructor
      · intro rest
        exact ⟨first, middle, rfl, rest⟩
      · rintro ⟨_, _, same, rest⟩
        cases same
        exact rest
  | error fault middle =>
      rw [bind_of_error ran]
      constructor
      · intro impossible
        cases impossible
      · rintro ⟨_, _, impossible, -⟩
        cases impossible

/-! ### What a run keeps -/

/-- Every run leads from a state to one related to it. -/
def Keeps (R : σ → σ → Prop) (action : Action σ α) : Prop :=
  ∀ state, R state (after (action state))

/-- A relation that a sequence keeps when its steps do. -/
structure Steady (R : σ → σ → Prop) : Prop where
  refl : ∀ state, R state state
  trans : ∀ {a b c}, R a b → R b c → R a c

variable {R : σ → σ → Prop}

theorem Keeps.ok {action : Action σ α} (keeps : Keeps R action) {state final : σ} {value : α}
    (ran : action state = .ok value final) : R state final := by
  have kept := keeps state
  rwa [ran] at kept

theorem Keeps.error {action : Action σ α} (keeps : Keeps R action) {state final : σ}
    {fault : Fault} (ran : action state = .error fault final) : R state final := by
  have kept := keeps state
  rwa [ran] at kept

theorem Keeps.pure (steady : Steady R) (value : α) : Keeps R (pure value : Action σ α) :=
  fun state => steady.refl state

theorem Keeps.get (steady : Steady R) : Keeps R (get : Action σ σ) :=
  fun state => steady.refl state

theorem Keeps.bind (steady : Steady R) {action : Action σ α} {next : α → Action σ β}
    (first : Keeps R action) (rest : ∀ value, Keeps R (next value)) :
    Keeps R (action >>= next) := by
  intro state
  cases ran : action state with
  | ok value middle =>
      rw [bind_of_ok ran]
      exact steady.trans (first.ok ran) (rest value middle)
  | error fault middle =>
      rw [bind_of_error ran]
      exact first.error ran

end VideoAccel.Action
