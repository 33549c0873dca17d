set_option autoImplicit false

/-! # Carrying out actions

An action that may fail and that works on a state gives a result and leaves a state. What it
gives and leaves is `exec`; the lemmas say what `exec` makes of each way to build an action, so
that a run is computed one action after the other and no proof opens the monad. Of actions without
a state it is enough to know when they give a value (`bind_eq_ok_iff`).
-/

namespace HttpDoctest

variable {ε σ α β : Type}

/-- The result of an action carried out on a state, and the state it leaves. -/
def exec (action : ExceptT ε (StateM σ) α) (state : σ) : Except ε α × σ :=
  action.run.run state

theorem exec_bind_of_ok {action : ExceptT ε (StateM σ) α} {state next : σ} {value : α}
    (h : exec action state = (.ok value, next)) (rest : α → ExceptT ε (StateM σ) β) :
    exec (action >>= rest) state = exec (rest value) next := by
  show (match exec action state with
    | (result, next) => StateT.run (ExceptT.bindCont rest result) next) = _
  rw [h]
  rfl

theorem exec_bind_of_error {action : ExceptT ε (StateM σ) α} {state next : σ} {error : ε}
    (h : exec action state = (.error error, next)) (rest : α → ExceptT ε (StateM σ) β) :
    exec (action >>= rest) state = (.error error, next) := by
  show (match exec action state with
    | (result, next) => StateT.run (ExceptT.bindCont rest result) next) = _
  rw [h]
  rfl

/-- What follows an action sees its value, unless the action failed. -/
theorem exec_bind (action : ExceptT ε (StateM σ) α) (rest : α → ExceptT ε (StateM σ) β)
    (state : σ) :
    exec (action >>= rest) state =
      match exec action state with
      | (.ok value, next) => exec (rest value) next
      | (.error error, next) => (.error error, next) := by
  rcases h : exec action state with ⟨error | value, next⟩
  · exact exec_bind_of_error h rest
  · exact exec_bind_of_ok h rest

@[simp] theorem exec_pure (value : α) (state : σ) :
    exec (pure value : ExceptT ε (StateM σ) α) state = (.ok value, state) := rfl

@[simp] theorem exec_get (state : σ) :
    exec (get : ExceptT ε (StateM σ) σ) state = (.ok state, state) := rfl

/-- An action whose failure is caught leaves the state it left when it failed. -/
@[simp] theorem exec_lift_run (action : ExceptT ε (StateM σ) α) (state : σ) :
    exec (ExceptT.lift action.run : ExceptT ε (StateM σ) (Except ε α)) state =
      (.ok (exec action state).1, (exec action state).2) := rfl

/-- One action after another gives a value if both do. -/
theorem bind_eq_ok_iff {action : Except ε α} {rest : α → Except ε β} {value : β} :
    action >>= rest = .ok value ↔
      ∃ between, action = .ok between ∧ rest between = .ok value := by
  cases action with
  | error error =>
      constructor
      · rintro ⟨⟩
      · rintro ⟨_, ⟨⟩, _⟩
  | ok between =>
      constructor
      · exact fun h => ⟨between, rfl, h⟩
      · rintro ⟨_, ⟨⟩, h⟩
        exact h

end HttpDoctest
