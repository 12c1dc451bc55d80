/-!
# Computations on a state

Rendering works on a session, and a run of the command on files and an input. Either is a
computation that yields a result or fails, and that leaves a state in both cases. The lemmas here
take two computations in a row apart, whatever the state is.
-/

namespace Stencil

variable {State Failure α β : Type}

/-- After a computation that succeeds the next one goes on. -/
theorem bind_of_ok {first : ExceptT Failure (StateM State) α}
    {next : α → ExceptT Failure (StateM State) β} {state after : State} {value : α}
    (ran : first state = (.ok value, after)) : (first >>= next) state = next value after := by
  change ExceptT.bind first next state = next value after
  unfold ExceptT.bind ExceptT.mk
  simp only [Bind.bind, StateT.bind]
  rw [ran]
  rfl

/-- After looking at the state the computation goes on there. -/
theorem bind_of_get {next : State → ExceptT Failure (StateM State) β} {state : State} :
    ((get : ExceptT Failure (StateM State) State) >>= next) state = next state state :=
  bind_of_ok rfl

/-- After a computation that fails there is nothing more. -/
theorem bind_of_error {first : ExceptT Failure (StateM State) α}
    {next : α → ExceptT Failure (StateM State) β} {state after : State} {failure : Failure}
    (ran : first state = (.error failure, after)) :
    (first >>= next) state = (.error failure, after) := by
  change ExceptT.bind first next state = (.error failure, after)
  unfold ExceptT.bind ExceptT.mk
  simp only [Bind.bind, StateT.bind]
  rw [ran]
  rfl

/-- What comes after a computation comes after any other that runs in the same way. -/
theorem bind_congr_first {first other : ExceptT Failure (StateM State) α}
    {next : α → ExceptT Failure (StateM State) β} {state : State}
    (same : first state = other state) : (first >>= next) state = (other >>= next) state := by
  cases ran : other state with
  | mk result after =>
    cases result with
    | ok value => rw [bind_of_ok ran, bind_of_ok (same.trans ran)]
    | error failure => rw [bind_of_error ran, bind_of_error (same.trans ran)]

/-- What a computation of two parts yields, its second part yields after its first one. -/
theorem exists_of_bind_eq_ok {first : ExceptT Failure (StateM State) α}
    {next : α → ExceptT Failure (StateM State) β} {state after : State} {result : β}
    (ran : (first >>= next) state = (.ok result, after)) :
    ∃ value between, first state = (.ok value, between) ∧
      next value between = (.ok result, after) := by
  cases outcome : first state with
  | mk result between =>
    cases result with
    | ok value =>
      rw [bind_of_ok outcome] at ran
      exact ⟨value, between, rfl, ran⟩
    | error failure =>
      rw [bind_of_error outcome] at ran
      cases ran

end Stencil
