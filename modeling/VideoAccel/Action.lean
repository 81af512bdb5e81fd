import VideoAccel.Fault

/-!
Steps that change a state and may be refused.

An `Action σ α` runs on a state and either answers or is refused with a `Fault`; in both cases
it leaves a state behind, so a refusal halfway keeps what was already done. Nothing is rolled
back. `Action.on` runs an action on one part of a larger state.
-/

namespace VideoAccel

abbrev Action (σ α : Type) := EStateM Fault σ α

namespace Action

/-- The answer of a run, or the fault that ended it. -/
def outcome {σ α : Type} : EStateM.Result Fault σ α → Except Fault α
  | .ok value _ => .ok value
  | .error fault _ => .error fault

/-- The state a run leaves behind. -/
def after {σ α : Type} : EStateM.Result Fault σ α → σ
  | .ok _ state => state
  | .error _ state => state

/-- Runs an action on the part of the state that `get` reads and `put` stores. -/
def on {σ τ α : Type} (get : σ → τ) (put : τ → σ → σ) (action : Action τ α) : Action σ α :=
  fun state =>
    match action (get state) with
    | .ok value part => .ok value (put part state)
    | .error fault part => .error fault (put part state)

/-- Answers with the value, or is refused and changes nothing. -/
def ofExcept {σ α : Type} : Except Fault α → Action σ α
  | .ok value => fun state => .ok value state
  | .error fault => fun state => .error fault state

/-- Runs an action and answers with its outcome; this is never refused. -/
def attempt {σ α : Type} (action : Action σ α) : Action σ (Except Fault α) :=
  fun state => .ok (outcome (action state)) (after (action state))

@[simp] theorem outcome_ok {σ α : Type} (value : α) (state : σ) :
    outcome (.ok value state : EStateM.Result Fault σ α) = .ok value := rfl

@[simp] theorem outcome_error {σ α : Type} (fault : Fault) (state : σ) :
    outcome (.error fault state : EStateM.Result Fault σ α) = .error fault := rfl

@[simp] theorem after_ok {σ α : Type} (value : α) (state : σ) :
    after (.ok value state : EStateM.Result Fault σ α) = state := rfl

@[simp] theorem after_error {σ α : Type} (fault : Fault) (state : σ) :
    after (.error fault state : EStateM.Result Fault σ α) = state := rfl

theorem outcome_on {σ τ α : Type} (get : σ → τ) (put : τ → σ → σ) (action : Action τ α)
    (state : σ) : outcome (on get put action state) = outcome (action (get state)) := by
  unfold on
  cases action (get state) <;> rfl

theorem after_on {σ τ α : Type} (get : σ → τ) (put : τ → σ → σ) (action : Action τ α)
    (state : σ) : after (on get put action state) = put (after (action (get state))) state := by
  unfold on
  cases action (get state) <;> rfl

end Action

end VideoAccel
