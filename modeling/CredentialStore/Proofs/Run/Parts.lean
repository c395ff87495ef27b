import CredentialStore.Proofs.Run.Basic

namespace CredentialStore

/-- The scene after an event. -/
def Scene.next (s : Scene) (e : Event) : Scene := if e.struck then s else (s.perform e.call).2

/-- The scene after the events of a trace. -/
def Scene.after (s : Scene) (tr : Trace) : Scene := tr.foldl Scene.next s

theorem Scene.after_append (s : Scene) (tr tr' : Trace) :
    s.after (tr ++ tr') = (s.after tr).after tr' := List.foldl_append

namespace Program

variable {strikes : Strikes} {α β : Type} {p : Program α} {s s' : Scene} {tr : Trace}

/-- A run leads to the scene after its trace. -/
theorem Runs.after_eq {value : α} (hruns : p.Runs strikes s tr value s') : s.after tr = s' := by
  induction hruns with
  | done => rfl
  | call hanswer hrest ih =>
    rw [← ih]
    cases hanswer <;> rfl

/-- A run of one program after another ends where the run of the first is followed by one of the second.
    -/
theorem Runs.of_bind {f : α → Program β} {value : β}
    (hruns : (p.bind f).Runs strikes s tr value s') :
    ∃ first rest middle s₁, tr = first ++ rest ∧ p.Runs strikes s first middle s₁ ∧
      (f middle).Runs strikes s₁ rest value s' := by
  induction p generalizing s tr with
  | done middle => exact ⟨[], tr, middle, s, rfl, .done s middle, hruns⟩
  | call c next ih =>
    cases hruns with
    | call hanswer hrest =>
      obtain ⟨first, rest, middle, s₁, rfl, hfirst, hrest⟩ := ih _ hrest
      exact ⟨_ :: first, rest, middle, s₁, rfl, .call hanswer hfirst, hrest⟩

/-- A call is the first event of its run. -/
theorem Runs.of_call {c : Call} {next : c.Answer → Program α} {value : α}
    (hruns : (Program.call c next).Runs strikes s tr value s') :
    ∃ answer struck rest, tr = ⟨c, answer, struck⟩ :: rest := by
  cases hruns with
  | call hanswer hrest => exact ⟨_, _, _, rfl⟩

theorem Runs.calls {allowed : Call → Prop} {value : α} (huses : p.Uses allowed)
    (hruns : p.Runs strikes s tr value s') : ∀ e ∈ tr, allowed e.call := by
  induction hruns with
  | done => simp
  | call hanswer hrest ih =>
    intro e he
    rcases List.mem_cons.1 he with rfl | he
    · exact huses.1
    · exact ih (huses.2 _) e he

theorem Uses.mono {allowed allowed' : Call → Prop} {p : Program α}
    (huses : p.Uses allowed) (himp : ∀ c, allowed c → allowed' c) : p.Uses allowed' := by
  induction p with
  | done value => trivial
  | call c next ih => exact ⟨himp c huses.1, fun answer => ih answer (huses.2 answer)⟩

end Program

namespace Action

variable {strikes : Strikes} {σ τ α β : Type} {state state' : σ} {s s' : Scene} {tr : Trace}

/-- An action runs to its outcome. -/
abbrev Runs (strikes : Strikes) (action : Action σ α) (state : σ) (s : Scene) (tr : Trace)
    (outcome : Except Failure α) (state' : σ) (s' : Scene) : Prop :=
  Program.Runs strikes s (action state) tr (outcome, state') s'

theorem Runs.of_done {outcome : Except Failure α} {result : Except Failure α × σ}
    (hruns : Program.Runs strikes s (.done result) tr (outcome, state') s') :
    tr = [] ∧ (outcome, state') = result ∧ s' = s := by
  cases hruns
  exact ⟨rfl, rfl, rfl⟩

theorem Runs.of_pure {value : α} {outcome : Except Failure α}
    (hruns : (pure value : Action σ α).Runs strikes state s tr outcome state' s') :
    tr = [] ∧ outcome = .ok value ∧ state' = state ∧ s' = s := by
  obtain ⟨htr, hresult, hs⟩ := Runs.of_done hruns
  rw [Prod.mk.injEq] at hresult
  exact ⟨htr, hresult.1, hresult.2, hs⟩

theorem Runs.of_throw {failure : Failure} {outcome : Except Failure α}
    (hruns : (throw failure : Action σ α).Runs strikes state s tr outcome state' s') :
    tr = [] ∧ outcome = .error failure ∧ state' = state ∧ s' = s := by
  obtain ⟨htr, hresult, hs⟩ := Runs.of_done hruns
  rw [Prod.mk.injEq] at hresult
  exact ⟨htr, hresult.1, hresult.2, hs⟩

/-- One action after another: the second goes on where the first succeeds. -/
theorem Runs.of_bind {first : Action σ α} {next : α → Action σ β} {outcome : Except Failure β}
    (hruns : (first >>= next).Runs strikes state s tr outcome state' s') :
    (∃ value state₁ s₁ tr₁ tr₂, tr = tr₁ ++ tr₂ ∧ first.Runs strikes state s tr₁ (.ok value) state₁ s₁ ∧
      (next value).Runs strikes state₁ s₁ tr₂ outcome state' s') ∨
    ∃ failure, outcome = .error failure ∧ first.Runs strikes state s tr (.error failure) state' s' := by
  obtain ⟨tr₁, tr₂, ⟨result, state₁⟩, s₁, rfl, hfirst, hrest⟩ := Program.Runs.of_bind (p := first state) hruns
  cases result with
  | ok value => exact .inl ⟨value, state₁, s₁, tr₁, tr₂, rfl, hfirst, hrest⟩
  | error failure =>
    obtain ⟨rfl, hresult, rfl⟩ := Runs.of_done hrest
    cases hresult
    rw [List.append_nil]
    exact .inr ⟨failure, rfl, hfirst⟩

/-- What succeeds as a whole succeeds in both parts. -/
theorem Runs.of_bind_ok {first : Action σ α} {next : α → Action σ β} {value : β}
    (hruns : (first >>= next).Runs strikes state s tr (.ok value) state' s') :
    ∃ middle state₁ s₁ tr₁ tr₂, tr = tr₁ ++ tr₂ ∧ first.Runs strikes state s tr₁ (.ok middle) state₁ s₁ ∧
      (next middle).Runs strikes state₁ s₁ tr₂ (.ok value) state' s' := by
  obtain hparts | ⟨_, hok, -⟩ := hruns.of_bind
  · exact hparts
  · cases hok

theorem Runs.of_get_bind {next : σ → Action σ β} {outcome : Except Failure β}
    (hruns : (get >>= next : Action σ β).Runs strikes state s tr outcome state' s') :
    (next state).Runs strikes state s tr outcome state' s' := hruns

theorem Runs.of_modify_bind {f : σ → σ} {next : PUnit → Action σ β} {outcome : Except Failure β}
    (hruns : (modify f >>= next : Action σ β).Runs strikes state s tr outcome state' s') :
    (next ⟨⟩).Runs strikes (f state) s tr outcome state' s' := hruns

theorem Runs.of_ask {c : Call} {outcome : Except Failure c.Reply}
    (hruns : (ask c : Action σ c.Reply).Runs strikes state s tr outcome state' s') :
    state' = state ∧ ∃ struck, tr = [⟨c, outcome, struck⟩] ∧
      Scene.Answers strikes s ⟨c, outcome, struck⟩ s' := by
  have hcall : Program.Runs strikes s (.call c fun answer => .done (answer, state)) tr
      (outcome, state') s' := hruns
  generalize hp : Program.call c (fun answer => .done (answer, state)) = p at hcall
  cases hcall with
  | done => cases hp
  | @call _ s₁ _ e next rest _ hanswer hrest =>
    obtain ⟨c', answer, struck⟩ := e
    injection hp with hc hnext
    subst hc
    have hnext := congrFun (eq_of_heq hnext) answer
    simp only at hrest
    rw [← hnext] at hrest
    obtain ⟨rfl, hresult, rfl⟩ := Runs.of_done hrest
    cases hresult
    exact ⟨rfl, struck, rfl, hanswer⟩

/-- A call that is not on the files is performed. -/
theorem Runs.of_ask_aside (honly : strikes.OnFiles) {c : Call} (hpoint : c.faultPoint? = none)
    {outcome : Except Failure c.Reply}
    (hruns : (ask c : Action σ c.Reply).Runs strikes state s tr outcome state' s') :
    outcome = (s.perform c).1 ∧ state' = state ∧ tr = [⟨c, outcome, false⟩] ∧ s' = (s.perform c).2 := by
  obtain ⟨hstate, struck, htr, hanswer⟩ := Runs.of_ask hruns
  cases hanswer with
  | struck hstrikes => exact absurd hstrikes (honly.not_strikes hpoint)
  | performed => exact ⟨rfl, hstate, htr, rfl⟩

/-- An entry of the log is struck by no failure. -/
theorem Runs.of_note (honly : strikes.OnFiles) {event : Log.Event} {outcome : Except Failure Unit}
    (hruns : (note event : Action σ Unit).Runs strikes state s tr outcome state' s') :
    outcome = .ok () ∧ state' = state ∧ tr = [⟨.log event, .ok (), false⟩] := by
  obtain ⟨rfl, rfl, rfl, -⟩ := Runs.of_ask_aside honly rfl hruns
  exact ⟨rfl, rfl, rfl⟩

/-- An attempt gives the outcome of what was attempted. -/
theorem Runs.of_attempt {action : Action σ α} {outcome : Except Failure (Except Failure α)}
    (hruns : (attempt action).Runs strikes state s tr outcome state' s') :
    ∃ result, outcome = .ok result ∧ action.Runs strikes state s tr result state' s' := by
  obtain ⟨tr₁, tr₂, ⟨result, state₁⟩, s₁, rfl, haction, hrest⟩ :=
    Program.Runs.of_bind (p := action state) hruns
  obtain ⟨rfl, hresult, rfl⟩ := Runs.of_done hrest
  cases hresult
  rw [List.append_nil]
  exact ⟨result, rfl, haction⟩

/-- An action on a part of the state replaces that part. -/
theorem Runs.of_onPart {part : σ → τ} {replace : σ → τ → σ} {action : Action τ α}
    {outcome : Except Failure α}
    (hruns : (action.onPart part replace).Runs strikes state s tr outcome state' s') :
    ∃ t, state' = replace state t ∧ action.Runs strikes (part state) s tr outcome t s' := by
  obtain ⟨tr₁, tr₂, ⟨result, t⟩, s₁, rfl, haction, hrest⟩ :=
    Program.Runs.of_bind (p := action (part state)) hruns
  obtain ⟨rfl, hresult, rfl⟩ := Runs.of_done hrest
  cases hresult
  rw [List.append_nil]
  exact ⟨t, rfl, haction⟩

/-- An action that fails is cleaned up after, and its failure passes unless cleaning up fails. -/
theorem Runs.of_orCleanUp {action : Action σ α} {cleanUp : Action σ Unit} {outcome : Except Failure α}
    (hruns : (action.orCleanUp cleanUp).Runs strikes state s tr outcome state' s') :
    (∃ value, outcome = .ok value ∧ action.Runs strikes state s tr (.ok value) state' s') ∨
    ∃ failure state₁ s₁ tr₁ tr₂, tr = tr₁ ++ tr₂ ∧
      action.Runs strikes state s tr₁ (.error failure) state₁ s₁ ∧
      ((outcome = .error failure ∧ cleanUp.Runs strikes state₁ s₁ tr₂ (.ok ()) state' s') ∨
        ∃ worse, outcome = .error worse ∧
          cleanUp.Runs strikes state₁ s₁ tr₂ (.error worse) state' s') := by
  obtain ⟨result, state₁, s₁, tr₁, tr₂, rfl, hattempt, hrest⟩ | ⟨_, -, hattempt⟩ := hruns.of_bind
  · obtain ⟨result', hresult, haction⟩ := Runs.of_attempt hattempt
    cases hresult
    cases result with
    | ok value =>
      obtain ⟨rfl, rfl, rfl, rfl⟩ := Runs.of_pure hrest
      rw [List.append_nil]
      exact .inl ⟨value, rfl, haction⟩
    | error failure =>
      refine .inr ⟨failure, state₁, s₁, tr₁, tr₂, rfl, haction, ?_⟩
      obtain ⟨_, state₂, s₂, tr₃, tr₄, rfl, hclean, hthrow⟩ | ⟨worse, rfl, hclean⟩ := Runs.of_bind hrest
      · obtain ⟨rfl, rfl, rfl, rfl⟩ := Runs.of_throw hthrow
        rw [List.append_nil]
        exact .inl ⟨rfl, hclean⟩
      · exact .inr ⟨worse, rfl, hclean⟩
  · obtain ⟨_, hresult, -⟩ := Runs.of_attempt hattempt
    cases hresult

/-- What succeeds is not cleaned up. -/
theorem Runs.of_orCleanUp_ok {action : Action σ α} {cleanUp : Action σ Unit} {value : α}
    (hruns : (action.orCleanUp cleanUp).Runs strikes state s tr (.ok value) state' s') :
    action.Runs strikes state s tr (.ok value) state' s' := by
  obtain ⟨_, hok, haction⟩ | ⟨_, _, _, _, _, -, -, ⟨hok, -⟩ | ⟨_, hok, -⟩⟩ := Runs.of_orCleanUp hruns
  · cases hok
    exact haction
  · cases hok
  · cases hok

/-- Whether an action makes only allowed calls, from whatever state. -/
def Uses (allowed : Call → Prop) (action : Action σ α) : Prop :=
  ∀ state, (action state).Uses allowed

variable {allowed : Call → Prop}

theorem uses_pure (value : α) : (pure value : Action σ α).Uses allowed := fun _ => trivial

theorem uses_throw (failure : Failure) : (throw failure : Action σ α).Uses allowed := fun _ => trivial

theorem uses_get : (get : Action σ σ).Uses allowed := fun _ => trivial

theorem uses_modify (f : σ → σ) : (modify f : Action σ PUnit).Uses allowed := fun _ => trivial

theorem uses_ask {c : Call} (hallowed : allowed c) : (ask c : Action σ c.Reply).Uses allowed :=
  fun _ => ⟨hallowed, fun _ => trivial⟩

theorem uses_ofExcept {allowed : Call → Prop} (outcome : Except CredentialError α) :
    (ofExcept outcome : Action σ α).Uses allowed := by
  cases outcome <;> exact fun _ => trivial

theorem uses_bind {first : Action σ α} {next : α → Action σ β} (hfirst : first.Uses allowed)
    (hnext : ∀ value, (next value).Uses allowed) : (first >>= next).Uses allowed := by
  intro state
  refine Program.uses_bind (hfirst state) ?_
  rintro ⟨failure | value, state'⟩
  · trivial
  · exact hnext value state'

theorem uses_map {f : α → β} {action : Action σ α} (huses : action.Uses allowed) :
    (f <$> action).Uses allowed := by
  rw [← bind_pure_comp]
  exact uses_bind huses fun _ => uses_pure _

theorem uses_attempt {action : Action σ α} (huses : action.Uses allowed) :
    (attempt action).Uses allowed :=
  fun state => Program.uses_bind (huses state) fun _ => trivial

theorem uses_onSystemError {action : Action σ α} {handler : SystemError → Action σ α}
    (huses : action.Uses allowed) (hhandler : ∀ cause, (handler cause).Uses allowed) :
    (action.onSystemError handler).Uses allowed := by
  refine uses_bind (uses_attempt huses) fun outcome => ?_
  split
  · exact uses_pure _
  · exact hhandler _
  · exact uses_throw _

theorem uses_orCleanUp {action : Action σ α} {cleanUp : Action σ Unit} (huses : action.Uses allowed)
    (hclean : cleanUp.Uses allowed) : (action.orCleanUp cleanUp).Uses allowed := by
  refine uses_bind (uses_attempt huses) fun outcome => ?_
  split
  · exact uses_pure _
  · exact uses_bind hclean fun _ => uses_throw _

theorem uses_thenAlways {action : Action σ α} {last : Action σ Unit} (huses : action.Uses allowed)
    (hlast : last.Uses allowed) : (action.thenAlways last).Uses allowed := by
  refine uses_bind (uses_attempt huses) fun outcome => ?_
  split
  · exact uses_bind hlast fun _ => uses_pure _
  · exact uses_bind hlast fun _ => uses_throw _

theorem Uses.mono {action : Action σ α} (huses : action.Uses allowed) {allowed' : Call → Prop}
    (himp : ∀ c, allowed c → allowed' c) : action.Uses allowed' :=
  fun state => Program.Uses.mono (huses state) himp

theorem Runs.calls {action : Action σ α} {outcome : Except Failure α} (huses : action.Uses allowed)
    (hruns : action.Runs strikes state s tr outcome state' s') : ∀ e ∈ tr, allowed e.call :=
  Program.Runs.calls (huses state) hruns

theorem uses_onPart {part : σ → τ} {replace : σ → τ → σ} {action : Action τ α}
    (huses : action.Uses allowed) : (action.onPart part replace).Uses allowed :=
  fun state => Program.uses_bind (huses (part state)) fun _ => trivial

end Action

end CredentialStore
