import CredentialStore.Proofs.Run.Parts

namespace CredentialStore

/-- Whether failures of a plan can strike the calls that it plans them for. -/
def Strikes.Admits (strikes : Strikes) (plan : FaultPlan) : Prop :=
  ∀ point fault, (point, fault) ∈ plan → ∀ fs c, c.faultPoint? = some point → strikes fs c fault.failure

/-- Meeting a fault leaves a plan that has the same failures for the same calls. -/
theorem FaultPlan.of_meet (plan : FaultPlan) (point : FaultPoint) :
    (∀ failure, (plan.meet point).1 = some failure →
      ∃ fault : Fault, (point, fault) ∈ plan ∧ fault.failure = failure) ∧
    ∀ other fault, (other, fault) ∈ (plan.meet point).2 →
      ∃ fault' : Fault, (other, fault') ∈ plan ∧ fault'.failure = fault.failure := by
  induction plan with
  | nil => exact ⟨fun _ hmeet => (by cases hmeet), fun _ _ hmem => (by cases hmem)⟩
  | cons first rest ih =>
    obtain ⟨p, planned⟩ := first
    by_cases hpoint : p = point
    · subst hpoint
      cases hafter : planned.after with
      | zero =>
        simp only [meet, if_true, hafter]
        refine ⟨fun failure hmeet => ⟨planned, List.mem_cons_self, Option.some.inj hmeet⟩, ?_⟩
        exact fun other fault hmem => ⟨fault, hmem, rfl⟩
      | succ n =>
        simp only [meet, if_true, hafter]
        refine ⟨fun failure hmeet => (by cases hmeet), fun other fault hmem => ?_⟩
        rcases List.mem_cons.1 hmem with hsame | hmem
        · cases hsame
          exact ⟨planned, List.mem_cons_self, rfl⟩
        · exact ⟨fault, List.mem_cons_of_mem _ hmem, rfl⟩
    · simp only [meet, if_neg hpoint]
      refine ⟨fun failure hmeet => ?_, fun other fault hmem => ?_⟩
      · obtain ⟨fault, hmem, hfailure⟩ := ih.1 failure hmeet
        exact ⟨fault, List.mem_cons_of_mem _ hmem, hfailure⟩
      · rcases List.mem_cons.1 hmem with hsame | hmem
        · cases hsame
          exact ⟨planned, List.mem_cons_self, rfl⟩
        · obtain ⟨fault', hmem, hfailure⟩ := ih.2 other fault hmem
          exact ⟨fault', List.mem_cons_of_mem _ hmem, hfailure⟩

namespace Scene

/-- A scene whose faults are set aside. -/
def faultless (s : Scene) : Scene := { s with session := { s.session with faults := [] } }

theorem perform_faultless (s : Scene) (c : Call) :
    s.faultless.perform c = ((s.perform c).1, (s.perform c).2.faultless) := by
  cases c with
  | readTerminal prompt =>
    simp only [perform, faultless, Session.readTerminal]
    split <;> rfl
  | _ => rfl

/-- A scene answers as one without faults does, unless a fault of its plan strikes. -/
theorem answers_faultless {strikes : Strikes} (s : Scene) (c : Call)
    (hplan : strikes.Admits s.session.faults) :
    Answers strikes s.faultless ⟨c, (answer c s).1, (s.session.meet c).1.isSome⟩ (answer c s).2.faultless ∧
      strikes.Admits (answer c s).2.session.faults := by
  have hperformed : ∀ session : Session, { session with faults := [] } = s.faultless.session →
      Answers strikes s.faultless ⟨c, (perform c { s with session }).1, false⟩
        (perform c { s with session }).2.faultless := by
    intro session hsession
    have hsame : Scene.faultless { s with session } = s.faultless := by
      rw [faultless, hsession]
      rfl
    have hanswer : Answers strikes s.faultless ⟨c, (s.faultless.perform c).1, false⟩ (s.faultless.perform c).2 :=
      .performed c
    rw [← hsame, perform_faultless] at hanswer
    rw [← hsame]
    exact hanswer
  cases hpoint : c.faultPoint? with
  | none =>
    have hmeet : s.session.meet c = (none, s.session) := by simp [Session.meet, hpoint]
    simp only [answer, hmeet, Option.isSome_none]
    refine ⟨hperformed s.session rfl, ?_⟩
    have hfaults := faults_perform s c
    rwa [hfaults]
  | some point =>
    obtain ⟨hstruck, hrest⟩ := s.session.faults.of_meet point
    have hmeet : s.session.meet c = ((s.session.faults.meet point).1,
        { s.session with faults := (s.session.faults.meet point).2 }) := by
      simp [Session.meet, hpoint]
    have hadmits : strikes.Admits (s.session.faults.meet point).2 := by
      intro other fault hmem fs c' hpoint'
      obtain ⟨fault', hmem', hfailure⟩ := hrest other fault hmem
      rw [← hfailure]
      exact hplan other fault' hmem' fs c' hpoint'
    cases hfailure : (s.session.faults.meet point).1 with
    | some failure =>
      simp only [answer, hmeet, hfailure, Option.isSome_some]
      obtain ⟨fault, hmem, rfl⟩ := hstruck failure hfailure
      exact ⟨.struck (hplan point fault hmem _ c hpoint), hadmits⟩
    | none =>
      simp only [answer, hmeet, hfailure, Option.isSome_none]
      refine ⟨hperformed _ rfl, ?_⟩
      rwa [faults_perform]

end Scene

namespace Program

variable {α : Type}

/-- The calls of a program in a scene and the answers that the scene gives. -/
def traceIn : Program α → Scene → Trace
  | .done _, _ => []
  | .call c next, s => ⟨c, (Scene.answer c s).1, (s.session.meet c).1.isSome⟩ ::
      (next (Scene.answer c s).1).traceIn (Scene.answer c s).2

/-- What a program does in a scene with a plan of faults is a run. -/
theorem runs_traceIn {strikes : Strikes} (p : Program α) {s : Scene}
    (hplan : strikes.Admits s.session.faults) :
    p.Runs strikes s.faultless (p.traceIn s) (Id.run (StateT.run (p.run Scene.answer) s)).1
      (Id.run (StateT.run (p.run Scene.answer) s)).2.faultless := by
  induction p generalizing s with
  | done value => exact .done s.faultless value
  | call c next ih =>
    obtain ⟨hanswer, hrest⟩ := s.answers_faultless c hplan
    exact .call hanswer (ih (Scene.answer c s).1 hrest)

end Program

/-- The calls of an action in a scene. -/
def Scene.trace {σ α : Type} (s : Scene) (state : σ) (action : Action σ α) : Trace :=
  (action state).traceIn s

theorem Scene.runs_trace {σ α : Type} {strikes : Strikes} (s : Scene) (state : σ) (action : Action σ α)
    (hplan : strikes.Admits s.session.faults) :
    action.Runs strikes state s.faultless (s.trace state action) (s.run state action).1.1
      (s.run state action).1.2 (s.run state action).2.faultless :=
  Program.runs_traceIn (action state) hplan

theorem Strikes.admits_nil (strikes : Strikes) : strikes.Admits [] := fun _ _ hmem => by cases hmem

/-- A plan of one fault. -/
theorem Strikes.admits_singleton {strikes : Strikes} {point : FaultPoint} {fault : Fault}
    (hstrikes : ∀ fs c, c.faultPoint? = some point → strikes fs c fault.failure) :
    strikes.Admits [(point, fault)] := by
  intro point' fault' hmem fs c hpoint
  cases List.mem_singleton.1 hmem
  exact hstrikes fs c hpoint

end CredentialStore
