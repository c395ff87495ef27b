import CredentialStore.World.Basic

namespace CredentialStore.Scene

variable {σ α β : Type}

/-- A call is answered by the scene. -/
theorem run_ask (s : Scene) (state : σ) (c : Call) :
    s.run state (Action.ask c) = (((Scene.answer c s).1, state), (Scene.answer c s).2) := rfl

/-- One action after another: where the first fails the second is not run. -/
theorem run_bind (s : Scene) (state : σ) (first : Action σ α) (next : α → Action σ β) :
    s.run state (first >>= next) =
      match s.run state first with
      | ((.ok value, state), s) => s.run state (next value)
      | ((.error failure, state), s) => ((.error failure, state), s) := by
  have hbind : (first >>= next : Action σ β) state =
      (first state).bind fun result =>
        match result with
        | (.ok value, state) => next value state
        | (.error failure, state) => .done (.error failure, state) := by
    refine congrArg (Program.bind (first state)) (funext fun result => ?_)
    obtain ⟨outcome, state⟩ := result
    cases outcome <;> rfl
  have hrun := Program.run_bind Scene.answer (first state) fun result =>
    match result with
    | (.ok value, state) => next value state
    | (.error failure, state) => .done (.error failure, state)
  simp only [Scene.run, hbind, hrun]
  generalize hfirst : StateT.run (Program.run Scene.answer (first state)) s = result
  have hsplit : StateT.run (Program.run Scene.answer (first state) >>= fun result =>
      Program.run Scene.answer (match result with
        | (.ok value, state) => next value state
        | (.error failure, state) => .done (.error failure, state))) s =
      (fun result => StateT.run (Program.run Scene.answer (match result.1 with
        | (.ok value, state) => next value state
        | (.error failure, state) => .done (.error failure, state))) result.2)
        (Id.run (StateT.run (Program.run Scene.answer (first state)) s)) := rfl
  rw [hsplit, hfirst]
  obtain ⟨⟨outcome, state⟩, s⟩ := result
  cases outcome <;> rfl

/-- An attempt does not fail: it gives the outcome of what was attempted. -/
theorem run_attempt (s : Scene) (state : σ) (action : Action σ α) :
    s.run state (Action.attempt action) =
      ((.ok (s.run state action).1.1, (s.run state action).1.2), (s.run state action).2) := by
  have hattempt : (Action.attempt action) state =
      (action state).bind fun result => .done (.ok result.1, result.2) := rfl
  simp only [Scene.run, hattempt, Program.run_bind]
  rfl

end CredentialStore.Scene
