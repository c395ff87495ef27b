import CredentialStore.Proofs.Run.Parts

namespace CredentialStore.Action

variable {strikes : Strikes} {σ α β : Type} {inv : Trace → σ → Scene → Prop}

/-- Whether an action keeps a relation between the calls that were made, its state and the scene. -/
def Keeps (strikes : Strikes) (inv : Trace → σ → Scene → Prop) (action : Action σ α) : Prop :=
  ∀ ⦃before rest state state' s s' outcome⦄, inv before state s →
    action.Runs strikes state s rest outcome state' s' → inv (before ++ rest) state' s'

/-- What ends without a call keeps what its change of the state keeps. -/
theorem keeps_of_done {action : Action σ α} {result : σ → Except Failure α × σ}
    (hdone : ∀ state, action state = .done (result state))
    (hkeeps : ∀ before state s, inv before state s → inv before (result state).2 s) :
    action.Keeps strikes inv := by
  intro before rest state state' s s' outcome hinv hruns
  rw [Runs, hdone] at hruns
  obtain ⟨rfl, hresult, rfl⟩ := Runs.of_done hruns
  have hstate : state' = (result state).2 := congrArg Prod.snd hresult
  rw [List.append_nil, hstate]
  exact hkeeps before state _ hinv

theorem keeps_pure (value : α) : (pure value : Action σ α).Keeps strikes inv :=
  keeps_of_done (fun _ => rfl) fun _ _ _ hinv => hinv

theorem keeps_throw (failure : Failure) : (throw failure : Action σ α).Keeps strikes inv :=
  keeps_of_done (fun _ => rfl) fun _ _ _ hinv => hinv

theorem keeps_get : (get : Action σ σ).Keeps strikes inv :=
  keeps_of_done (fun _ => rfl) fun _ _ _ hinv => hinv

theorem keeps_modify {f : σ → σ} (hkeeps : ∀ before state s, inv before state s → inv before (f state) s) :
    (modify f : Action σ PUnit).Keeps strikes inv :=
  keeps_of_done (fun _ => rfl) hkeeps

/-- One call keeps what each of its answers keeps. -/
theorem keeps_ask {c : Call} (hkeeps : ∀ before state s answer struck s', inv before state s →
      Scene.Answers strikes s ⟨c, answer, struck⟩ s' → inv (before ++ [⟨c, answer, struck⟩]) state s') :
    (ask c : Action σ c.Reply).Keeps strikes inv := by
  intro before rest state state' s s' outcome hinv hruns
  obtain ⟨rfl, struck, rfl, hanswer⟩ := Runs.of_ask hruns
  exact hkeeps before _ s outcome struck s' hinv hanswer

theorem keeps_bind {first : Action σ α} {next : α → Action σ β} (hfirst : first.Keeps strikes inv)
    (hnext : ∀ value, (next value).Keeps strikes inv) : (first >>= next).Keeps strikes inv := by
  intro before rest state state' s s' outcome hinv hruns
  obtain ⟨value, state₁, s₁, tr₁, tr₂, rfl, hruns₁, hruns₂⟩ | ⟨failure, -, hruns₁⟩ := hruns.of_bind
  · rw [← List.append_assoc]
    exact hnext value (hfirst hinv hruns₁) hruns₂
  · exact hfirst hinv hruns₁

theorem keeps_map {f : α → β} {action : Action σ α} (hkeeps : action.Keeps strikes inv) :
    (f <$> action).Keeps strikes inv := by
  rw [← bind_pure_comp]
  exact keeps_bind hkeeps fun _ => keeps_pure _

theorem keeps_attempt {action : Action σ α} (hkeeps : action.Keeps strikes inv) :
    (attempt action).Keeps strikes inv := by
  intro before rest state state' s s' outcome hinv hruns
  obtain ⟨result, -, haction⟩ := Runs.of_attempt hruns
  exact hkeeps hinv haction

theorem keeps_onSystemError {action : Action σ α} {handler : SystemError → Action σ α}
    (hkeeps : action.Keeps strikes inv) (hhandler : ∀ cause, (handler cause).Keeps strikes inv) :
    (action.onSystemError handler).Keeps strikes inv := by
  refine keeps_bind (keeps_attempt hkeeps) fun outcome => ?_
  split
  · exact keeps_pure _
  · exact hhandler _
  · exact keeps_throw _

theorem keeps_thenAlways {action : Action σ α} {last : Action σ Unit} (hkeeps : action.Keeps strikes inv)
    (hlast : last.Keeps strikes inv) : (action.thenAlways last).Keeps strikes inv := by
  refine keeps_bind (keeps_attempt hkeeps) fun outcome => ?_
  split
  · exact keeps_bind hlast fun _ => keeps_pure _
  · exact keeps_bind hlast fun _ => keeps_throw _

end CredentialStore.Action
