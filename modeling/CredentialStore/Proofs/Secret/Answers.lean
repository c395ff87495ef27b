import CredentialStore.Proofs.Run.Basic
import CredentialStore.Proofs.Secret.Asking

namespace CredentialStore

/-- What a session answers at its next prompt, if anything. -/
def Session.answer? (session : Session) : SecretSource → Option Text
  | .script => session.script.head?.join
  | .terminal =>
    match session.typed with
    | .answer entered :: _ => some entered
    | _ => none

namespace Prompt

variable {σ : Type} {source : SecretSource} {prompt entered : Text} {s : Scene} {state : σ}

theorem run_nextAnswer (s : Scene) (state : σ) (prompt : Text) :
    (s.run state (Action.ask (.nextAnswer prompt))).1.1 = .ok s.session.script.head?.join := by
  rw [Scene.run_ask, Call.Asks.answer_eq_perform (c := .nextAnswer prompt) trivial]
  rfl

theorem run_readTerminal (s : Scene) (state : σ) (prompt : Text) :
    (s.run state (Action.ask (.readTerminal prompt))).1.1 = (s.session.readTerminal prompt).1 := by
  rw [Scene.run_ask, Call.Asks.answer_eq_perform (c := .readTerminal prompt) trivial]
  rfl

theorem answer?_of_readTerminal {session : Session}
    (hread : (session.readTerminal prompt).1 = .ok entered) :
    session.answer? .terminal = some entered := by
  unfold Session.readTerminal at hread
  cases htyped : session.typed with
  | nil =>
    rw [htyped] at hread
    cases hread
  | cons first rest =>
    rw [htyped] at hread
    cases first with
    | failure failure => cases hread
    | answer t =>
      cases hread
      rw [Session.answer?, htyped]

/-- What is given at a prompt is what the session answers first. -/
theorem answer?_of_answer
    (hrun : (s.run state (answer source prompt)).1.1 = .ok (some entered)) :
    s.session.answer? source = some entered := by
  cases source with
  | script =>
    have hnext := (run_nextAnswer s state prompt).symm.trans hrun
    exact Except.ok.inj hnext
  | terminal =>
    obtain ⟨outcome, hattempt, hnext⟩ := Scene.exists_of_run_bind hrun
    rw [Scene.run_attempt, Except.ok.injEq, run_readTerminal] at hattempt
    cases outcome with
    | ok typed =>
      cases hnext
      exact answer?_of_readTerminal hattempt
    | error failure => cases failure <;> cases hnext

/-- A secret that is given has the bytes of the answer. -/
theorem exists_answer?_of_secret {secret : Secret}
    (hrun : (s.run state (Prompt.secret source prompt)).1.1 = .ok secret) :
    ∃ entered, s.session.answer? source = some entered ∧ entered.toBytes? = some secret.octets := by
  obtain ⟨entered?, hanswer, hnext⟩ := Scene.exists_of_run_bind hrun
  cases entered? with
  | none => cases hnext
  | some entered =>
    refine ⟨entered, answer?_of_answer hanswer, ?_⟩
    cases hbytes : entered.toBytes? with
    | none =>
      simp only [Secret.ofText?, hbytes, Option.map_none] at hnext
      cases hnext
    | some octets =>
      simp only [Secret.ofText?, hbytes, Option.map_some] at hnext
      cases hnext
      rfl

end Prompt

/-- Whether an action fails only by refusing, in whatever scene. -/
def Action.Refuses {σ α : Type} (action : Action σ α) : Prop :=
  ∀ (s : Scene) (state : σ) (failure : Failure), (s.run state action).1.1 = .error failure →
    ∃ error, failure = .credential error

/-- Whether an action has only failures of its own, in whatever scene, and those that are typed at the
    terminal where its answers are read there. -/
def Action.Declines {σ α : Type} (source : SecretSource) (own : Failure → Prop) (action : Action σ α) : Prop :=
  ∀ (s : Scene) (state : σ) (failure : Failure), (s.run state action).1.1 = .error failure →
    own failure ∨ source = .terminal ∧ .failure failure ∈ s.session.typed

/-- What is typed at the terminal is taken in order. -/
theorem Scene.typed_run {σ α : Type} (s : Scene) (state : σ) (action : Action σ α) :
    (s.run state action).2.session.typed <:+ s.session.typed := by
  have hanswer : ∀ (s : Scene) (c : Call), (Scene.answer c s).2.session.typed <:+ s.session.typed := by
    intro s c
    have hperform : (s.perform c).2.session.typed <:+ s.session.typed := by
      cases c with
      | readTerminal prompt =>
        simp only [perform, Session.readTerminal]
        split <;> exact List.tail_suffix _
      | _ => exact List.suffix_rfl
    cases hpoint : c.faultPoint? with
    | none => simpa only [answer, Session.meet, hpoint] using hperform
    | some point =>
      cases c with
      | readTerminal | nextAnswer | log | beginTransaction | setUpLog => cases hpoint
      | _ =>
        simp only [answer, Session.meet, hpoint]
        split <;> exact List.suffix_rfl
  have hprogram : ∀ (p : Program (Except Failure α × σ)) (s : Scene),
      (Id.run (StateT.run (p.run Scene.answer) s)).2.session.typed <:+ s.session.typed := by
    intro p
    induction p with
    | done value => exact fun s => List.suffix_rfl
    | call c next ih => exact fun s => (ih _ _).trans (hanswer s c)
  exact hprogram (action state) s

namespace Action

variable {σ α β : Type} {source : SecretSource} {own own' : Failure → Prop}

theorem Declines.mono {action : Action σ α} (hdeclines : action.Declines source own)
    (hown : ∀ failure, own failure → own' failure) : action.Declines source own' :=
  fun s state failure hfailed => (hdeclines s state failure hfailed).imp_left (hown failure)

theorem Declines.refuses {action : Action σ α} (hdeclines : action.Declines .script own)
    (hown : ∀ failure, own failure → ∃ error, failure = .credential error) : action.Refuses := by
  intro s state failure hfailed
  obtain hfailure | ⟨hterminal, -⟩ := hdeclines s state failure hfailed
  · exact hown failure hfailure
  · cases hterminal

theorem declines_pure (value : α) : (pure value : Action σ α).Declines source own := by
  intro s state failure hfailed
  cases hfailed

theorem declines_throw {failure : Failure} (hown : own failure) :
    (throw failure : Action σ α).Declines source own := by
  intro s state failure' hfailed
  cases hfailed
  exact .inl hown

theorem declines_bind {first : Action σ α} {next : α → Action σ β} (hfirst : first.Declines source own)
    (hnext : ∀ value, (next value).Declines source own) : (first >>= next).Declines source own := by
  intro s state failure hfailed
  rw [Scene.run_bind] at hfailed
  have hdeclines := hfirst s state
  have htyped := s.typed_run state first
  generalize s.run state first = result at hfailed hdeclines htyped
  obtain ⟨⟨failure' | value, state'⟩, s'⟩ := result
  · cases hfailed
    exact hdeclines failure rfl
  · exact (hnext value s' state' failure hfailed).imp_right fun ⟨hsource, hmem⟩ =>
      ⟨hsource, htyped.subset hmem⟩

theorem declines_map {f : α → β} {action : Action σ α} (hdeclines : action.Declines source own) :
    (f <$> action).Declines source own := by
  rw [← bind_pure_comp]
  exact declines_bind hdeclines fun value => declines_pure (f value)

end Action

theorem Policy.exists_check? {identity : Text} {name : Bytes} (hname : identity.toUtf8? = some name)
    (octets : Bytes) : ∃ verdict, Policy.check? (.bytes octets) identity = some verdict := by
  simp only [check?, TextOrBytes.utf8?, hname, Option.bind_eq_bind, Option.bind_some, Option.pure_def]
  split
  · exact ⟨_, rfl⟩
  · split
    · exact ⟨_, rfl⟩
    · split <;> exact ⟨_, rfl⟩

namespace Prompt

variable {σ : Type} {source : SecretSource} {own : Failure → Prop}

/-- Why no secret is taken: there is no answer, it breaks a rule, or it cannot be compared with an identity
    that is no text in UTF-8. -/
inductive Declined (unnamed : Prop) : Failure → Prop
  | absent (prompt : Text) : Declined unnamed (.credential (.noSecret prompt))
  | invalid (reason : Text) (hint : Option Text) : Declined unnamed (.credential (.validationFailed reason hint))
  | unencodable (hunnamed : unnamed) : Declined unnamed .unencodable

theorem Declined.mono {unnamed unnamed' : Prop} (himp : unnamed → unnamed') {failure : Failure}
    (hdeclined : Declined unnamed failure) : Declined unnamed' failure := by
  cases hdeclined with
  | absent prompt => exact .absent prompt
  | invalid reason hint => exact .invalid reason hint
  | unencodable hunnamed => exact .unencodable (himp hunnamed)

theorem Declined.credential {unnamed : Prop} (hnamed : ¬unnamed) {failure : Failure}
    (hdeclined : Declined unnamed failure) : ∃ error, failure = .credential error := by
  cases hdeclined with
  | absent => exact ⟨_, rfl⟩
  | invalid => exact ⟨_, rfl⟩
  | unencodable hunnamed => exact absurd hunnamed hnamed

theorem typed_of_readTerminal {session : Session} {prompt : Text} {failure : Failure}
    (hread : (session.readTerminal prompt).1 = .error failure) :
    failure = .endOfInput ∨ .failure failure ∈ session.typed := by
  unfold Session.readTerminal at hread
  cases htyped : session.typed with
  | nil =>
    rw [htyped] at hread
    cases hread
    exact .inl rfl
  | cons first rest =>
    rw [htyped] at hread
    cases first with
    | answer t => cases hread
    | failure f =>
      cases hread
      exact .inr List.mem_cons_self

theorem declines_answer (source : SecretSource) (prompt : Text) :
    (answer source prompt : Action σ _).Declines source own := by
  intro s state failure hfailed
  cases source with
  | script => cases (run_nextAnswer s state prompt).symm.trans hfailed
  | terminal =>
    rw [answer, Scene.run_bind, Scene.run_attempt, run_readTerminal] at hfailed
    have hread : ∀ failure, (s.session.readTerminal (prompt ++ text " ")).1 = .error failure →
      failure = .endOfInput ∨ .failure failure ∈ s.session.typed := fun _ => typed_of_readTerminal
    generalize (s.session.readTerminal (prompt ++ text " ")).1 = outcome at hfailed hread
    rcases outcome with failure' | entered
    · cases failure' with
      | endOfInput | interrupted | undecodable | unencodable => cases hfailed
      | _ =>
        cases hfailed
        exact .inr ⟨rfl, (hread _ rfl).resolve_left fun h => by cases h⟩
    · cases hfailed

theorem declines_secret {unnamed : Prop} (source : SecretSource) (prompt : Text) :
    (secret source prompt : Action σ Secret).Declines source (Declined unnamed) := by
  refine Action.declines_bind (declines_answer source prompt) fun entered => ?_
  split
  · exact Action.declines_throw (.absent prompt)
  · split
    · exact Action.declines_throw (.invalid _ none)
    · exact Action.declines_pure _

theorem declines_accept {unnamed : Prop} (given : Secret) {verdict? : Option Policy.Verdict}
    (hnone : verdict? = none → unnamed) :
    (accept given verdict? : Action σ Secret).Declines source (Declined unnamed) := by
  cases verdict? with
  | none => exact Action.declines_throw (.unencodable (hnone rfl))
  | some verdict =>
    cases hreason : verdict.reason? with
    | none =>
      simp only [accept, Policy.Verdict.error?, hreason, Option.map_none]
      exact Action.declines_pure _
    | some reason =>
      simp only [accept, Policy.Verdict.error?, hreason, Option.map_some]
      exact Action.declines_throw (.invalid reason _)

/-- A new secret is given or declined. -/
theorem declines_newSecret (source : SecretSource) (identity : Text) :
    (newSecret source identity : Action σ Secret).Declines source (Declined (identity.toUtf8? = none)) := by
  rw [newSecret_eq]
  refine Action.declines_bind (declines_secret source new) fun given => ?_
  refine Action.declines_bind (declines_secret source confirmation) fun again => ?_
  have haccept : (accept given (Policy.check? (.bytes given.octets) identity) : Action σ Secret).Declines
      source (Declined (identity.toUtf8? = none)) := by
    refine declines_accept given fun hunchecked => ?_
    cases hname : identity.toUtf8? with
    | none => rfl
    | some name =>
      obtain ⟨verdict, hverdict⟩ := Policy.exists_check? hname given.octets
      cases hunchecked.symm.trans hverdict
  split
  · exact Action.declines_bind (Action.declines_throw (.invalid _ none)) fun _ => haccept
  · exact haccept

end Prompt

end CredentialStore
