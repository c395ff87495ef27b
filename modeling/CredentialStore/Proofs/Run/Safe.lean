import CredentialStore.Proofs.Run.Basic

namespace CredentialStore

/-- What a program can count on and what it has to keep to. -/
structure Contract where
  strikes : Strikes
  /-- What holds of the files as long as the program has not created the staging file. -/
  assumes : FileSystem → Prop
  /-- Which steps are allowed: how the program stands, the files before, the event, the files after. -/
  allows : Standing → FileSystem → Event → FileSystem → Prop

/-- What others can do to a scene between two calls of a program. -/
def Contract.Drifts (k : Contract) (st : Standing) (s s' : Scene) : Prop :=
  s'.session = s.session ∧
    match st with
    | .outside => k.assumes s'.world.files
    | .holding _ => s'.world.files = s.world.files
    | .removed | .installed => True

/-- Whether a program keeps to a contract and ends in a postcondition, after the calls of a trace. -/
def Program.Safe (k : Contract) {α : Type} (post : α → Trace → Scene → Prop) :
    Program α → Trace → Scene → Prop
  | .done value, tr, s => post value tr s
  | .call c next, tr, s => ∀ s₀, k.Drifts tr.standing s s₀ → ∀ answer struck s',
      Scene.Answers k.strikes s₀ ⟨c, answer, struck⟩ s' →
        k.allows tr.standing s₀.world.files ⟨c, answer, struck⟩ s'.world.files ∧
          (next answer).Safe k post (tr ++ [⟨c, answer, struck⟩]) s'

/-- A trace of allowed steps that leads from files to files. -/
inductive Contract.Follows (k : Contract) : Standing → FileSystem → Trace → FileSystem → Prop
  | nil (st : Standing) (fs : FileSystem) : Follows k st fs [] fs
  | cons {st : Standing} {fs fs' fs'' : FileSystem} {e : Event} {rest : Trace}
      (hstep : k.allows st fs e fs') (hrest : Follows k (st.next e) fs' rest fs'') :
      Follows k st fs (e :: rest) fs''

namespace Contract

variable {k : Contract} {tr : Trace} {s s' : Scene} {e : Event}

/-- Nobody has to do anything between two calls. -/
theorem drifts_self (hassumes : tr.standing = .outside → k.assumes s.world.files) :
    k.Drifts tr.standing s s := by
  refine ⟨rfl, ?_⟩
  cases hst : tr.standing with
  | outside => exact hassumes hst
  | holding file => rfl
  | removed => trivial
  | installed => trivial

/-- What can be counted on before an event can be counted on after it, as long as the staging file was not
    created. -/
theorem assumes_next (hidle : ∀ fs e fs', k.allows .outside fs e fs' → e.turn? = none → fs' = fs)
    (hassumes : tr.standing = .outside → k.assumes s.world.files)
    (hallowed : k.allows tr.standing s.world.files e s'.world.files)
    (hst : (tr ++ [e]).standing = .outside) : k.assumes s'.world.files := by
  rw [Trace.standing_append_singleton, Standing.next] at hst
  cases hturn : e.turn? with
  | some turned =>
    rw [hturn, Option.getD_some] at hst
    exact absurd (hst ▸ hturn) e.turn?_ne_outside
  | none =>
    rw [hturn, Option.getD_none] at hst
    rw [hst] at hallowed
    rw [hidle _ _ _ hallowed hturn]
    exact hassumes hst

end Contract

namespace Program.Safe

variable {k : Contract} {α β : Type} {post post' : α → Trace → Scene → Prop} {p : Program α}
  {tr : Trace} {s : Scene}

theorem mono (hsafe : p.Safe k post tr s)
    (hpost : ∀ value tr' s', post value tr' s' → post' value tr' s') : p.Safe k post' tr s := by
  induction p generalizing tr s with
  | done value => exact hpost value tr s hsafe
  | call c next ih =>
    intro s₀ hdrift answer struck s' hanswer
    obtain ⟨hallowed, hnext⟩ := hsafe s₀ hdrift answer struck s' hanswer
    exact ⟨hallowed, ih answer hnext⟩

/-- The trace of a program goes on from the trace before it. -/
theorem extending (hsafe : p.Safe k post tr s) :
    p.Safe k (fun value tr' s' => post value tr' s' ∧ tr <+: tr') tr s := by
  induction p generalizing tr s with
  | done value => exact ⟨hsafe, List.prefix_refl tr⟩
  | call c next ih =>
    intro s₀ hdrift answer struck s' hanswer
    obtain ⟨hallowed, hnext⟩ := hsafe s₀ hdrift answer struck s' hanswer
    refine ⟨hallowed, (ih answer hnext).mono fun value tr' s'' hpost => ⟨hpost.1, ?_⟩⟩
    exact (List.prefix_append _ _).trans hpost.2

/-- The calls of a safe program are those that it can make. -/
theorem calling {allowed : Call → Prop} (hsafe : p.Safe k post tr s) (huses : p.Uses allowed) :
    p.Safe k (fun value tr' s' => post value tr' s' ∧
      ∃ rest, tr' = tr ++ rest ∧ ∀ e ∈ rest, allowed e.call) tr s := by
  induction p generalizing tr s with
  | done value => exact ⟨hsafe, [], by simp, by simp⟩
  | call c next ih =>
    intro s₀ hdrift answer struck s' hanswer
    obtain ⟨hallowed, hnext⟩ := hsafe s₀ hdrift answer struck s' hanswer
    refine ⟨hallowed, (ih answer hnext (huses.2 answer)).mono ?_⟩
    rintro value tr' s'' ⟨hpost, rest, rfl, hrest⟩
    refine ⟨hpost, ⟨c, answer, struck⟩ :: rest, by simp, fun e he => ?_⟩
    rcases List.mem_cons.1 he with rfl | he
    · exact huses.1
    · exact hrest e he

/-- One safe program after another. -/
theorem bind {f : α → Program β} {post : β → Trace → Scene → Prop}
    (hsafe : p.Safe k (fun value tr' s' => (f value).Safe k post tr' s') tr s) :
    (p.bind f).Safe k post tr s := by
  induction p generalizing tr s with
  | done value => exact hsafe
  | call c next ih =>
    intro s₀ hdrift answer struck s' hanswer
    obtain ⟨hallowed, hnext⟩ := hsafe s₀ hdrift answer struck s' hanswer
    exact ⟨hallowed, ih answer hnext⟩

theorem of_drift {post : α → Trace → Prop} {s' : Scene}
    (hsafe : p.Safe k (fun value tr' _ => post value tr') tr s) (hsession : s'.session = s.session)
    (hfiles : ∀ file, tr.standing = .holding file → s'.world.files = s.world.files) :
    p.Safe k (fun value tr' _ => post value tr') tr s' := by
  cases p with
  | done value => exact hsafe
  | call c next =>
    intro s₀ hdrift
    refine hsafe s₀ ⟨hdrift.1.trans hsession, ?_⟩
    have hdrifts := hdrift.2
    cases hst : tr.standing with
    | outside =>
      simp only [hst] at hdrifts ⊢
      exact hdrifts
    | holding file =>
      simp only [hst] at hdrifts ⊢
      exact hdrifts.trans (hfiles file hst)
    | removed => trivial
    | installed => trivial

/-- A run of a safe program between whose calls nobody does anything takes allowed steps and ends in the
    postcondition. -/
theorem of_runs (hidle : ∀ fs e fs', k.allows .outside fs e fs' → e.turn? = none → fs' = fs)
    (hsafe : p.Safe k post tr s) (hassumes : tr.standing = .outside → k.assumes s.world.files)
    {rest : Trace} {value : α} {s' : Scene} (hruns : p.Runs k.strikes s rest value s') :
    post value (tr ++ rest) s' ∧ k.Follows tr.standing s.world.files rest s'.world.files := by
  induction p generalizing tr s rest with
  | done value =>
    cases hruns
    rw [List.append_nil]
    exact ⟨hsafe, .nil _ _⟩
  | call c next ih =>
    cases hruns with
    | @call _ s₁ _ e _ rest _ hanswer hrest =>
      obtain ⟨hallowed, hnext⟩ := hsafe s (Contract.drifts_self hassumes) e.answer e.struck s₁ hanswer
      obtain ⟨hpost, hfollows⟩ := ih e.answer hnext (Contract.assumes_next hidle hassumes hallowed) hrest
      rw [List.append_assoc] at hpost
      rw [Trace.standing_append_singleton] at hfollows
      exact ⟨hpost, .cons hallowed hfollows⟩

end Program.Safe

end CredentialStore
