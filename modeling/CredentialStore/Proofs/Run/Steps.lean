import CredentialStore.Proofs.Run.Telling

namespace CredentialStore

/-- Events lead from one scene to another. -/
inductive Scene.Steps (strikes : Strikes) : Scene → Trace → Scene → Prop
  | nil (s : Scene) : Steps strikes s [] s
  | cons {s s' s'' : Scene} {e : Event} {rest : Trace} (hanswer : Scene.Answers strikes s e s')
      (hrest : Steps strikes s' rest s'') : Steps strikes s (e :: rest) s''

/-- Whether no failure struck. -/
def Trace.Calm (tr : Trace) : Prop := ∀ e ∈ tr, e.struck = false

instance (tr : Trace) : Decidable tr.Calm := List.decidableBAll _ _

namespace Scene.Steps

variable {strikes : Strikes} {s s' : Scene} {tr : Trace}

theorem of_cons {e : Event} (hsteps : Steps strikes s (e :: tr) s') :
    ∃ middle, Scene.Answers strikes s e middle ∧ Steps strikes middle tr s' := by
  cases hsteps with
  | cons hanswer hrest => exact ⟨_, hanswer, hrest⟩

/-- A call that no failure struck had its effect in one of the scenes. -/
theorem exists_performed (hsteps : Steps strikes s tr s') {e : Event} (he : e ∈ tr)
    (hcalm : e.struck = false) : ∃ s₀ : Scene, e.answer = (s₀.perform e.call).1 := by
  induction hsteps with
  | nil => cases he
  | cons hanswer hrest ih =>
    rcases List.mem_cons.1 he with rfl | he
    · obtain ⟨-, hanswer, -⟩ | ⟨_, hstruck, -⟩ := hanswer.performed_or_struck
      · exact ⟨_, hanswer⟩
      · cases hcalm.symm.trans hstruck
    · exact ih he

/-- Calls whose errors nobody meets succeed, unless a failure strikes them. -/
theorem ok_of_bare (hsteps : Steps strikes s tr s') {e : Event} (he : e ∈ tr)
    (hcalm : e.struck = false) (hbare : e.call.Bare) : ∃ reply, e.answer = .ok reply := by
  obtain ⟨s₀, hanswer⟩ := hsteps.exists_performed he hcalm
  obtain ⟨c, answer, struck⟩ := e
  cases c <;> first | exact False.elim hbare | exact ⟨_, hanswer⟩

end Scene.Steps

namespace Program

variable {strikes : Strikes} {α : Type} {p : Program α} {s s' : Scene} {tr : Trace} {value : α}

theorem Runs.steps (hruns : p.Runs strikes s tr value s') : s.Steps strikes tr s' := by
  induction hruns with
  | done s value => exact .nil s
  | call hanswer hrest ih => exact .cons hanswer ih

/-- As far as no failure struck, the steps of a safe program are allowed. -/
theorem Safe.follows_of_calm {k : Contract} {post : α → Trace → Scene → Prop} {before first rest : Trace}
    (hidle : ∀ fs e fs', k.allows .outside fs e fs' → e.turn? = none → fs' = fs)
    (hsafe : p.Safe k post before s) (hassumes : before.standing = .outside → k.assumes s.world.files)
    (hruns : p.Runs strikes s (first ++ rest) value s') (hcalm : first.Calm) :
    ∃ middle, s.Steps strikes first middle ∧ middle.Steps strikes rest s' ∧
      k.Follows before.standing s.world.files first middle.world.files := by
  induction first generalizing p before s with
  | nil => exact ⟨s, .nil s, hruns.steps, .nil _ _⟩
  | cons e first ih =>
    cases hruns with
    | @call _ s₁ _ _ next _ _ hanswer hrest =>
      have hcalmed : Scene.Answers k.strikes s e s₁ := by
        cases hanswer with
        | performed c => exact .performed c
        | struck => cases hcalm _ List.mem_cons_self
      obtain ⟨hallowed, hnext⟩ := hsafe s (Contract.drifts_self hassumes) e.answer e.struck s₁ hcalmed
      obtain ⟨middle, hfirst, hlast, hfollows⟩ := ih hnext
        (Contract.assumes_next hidle hassumes hallowed) hrest fun e he => hcalm e (List.mem_cons_of_mem _ he)
      rw [Trace.standing_append_singleton] at hfollows
      exact ⟨middle, .cons hanswer hfirst, hlast, .cons hallowed hfollows⟩

end Program

end CredentialStore
