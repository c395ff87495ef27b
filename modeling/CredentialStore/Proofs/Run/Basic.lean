import CredentialStore.World.Laws

namespace CredentialStore

/-- Which failures can strike a call, by the files that it meets. -/
abbrev Strikes := FileSystem → Call → Failure → Prop

/-- The path whose absence a call can report. -/
def Call.path? : Call → Option Text
  | createStaging path _ | openPrimary path | unlinkStaging path | unlinkBackup path => some path
  | linkBackup path _ | copyBackup path _ | install path _ => some path
  | _ => none

/-- Errors of the file system at any calls on the files. That a path is missing is reported only where
    nothing lies at it. -/
def Strikes.systemErrors : Strikes := fun fs c failure =>
  c.faultPoint?.isSome ∧ ∃ e, failure = .system e ∧
    (e = .numbered .notFound → ∀ path, c.path? = some path → fs.entryAt? path = none)

/-- Whether failures strike nothing but calls on the files. -/
def Strikes.OnFiles (strikes : Strikes) : Prop :=
  ∀ fs c failure, strikes fs c failure → c.faultPoint?.isSome

theorem Strikes.OnFiles.not_strikes {strikes : Strikes} (honly : strikes.OnFiles) {fs : FileSystem} {c : Call}
    {failure : Failure} (hpoint : c.faultPoint? = none) : ¬strikes fs c failure := by
  intro hstrikes
  have hsome := honly fs c failure hstrikes
  rw [hpoint] at hsome
  cases hsome

theorem Strikes.onFiles_systemErrors : systemErrors.OnFiles := fun _ _ _ hstrikes => hstrikes.1

/-- A call that was made and the answer that it got. -/
structure Event where
  call : Call
  answer : call.Answer
  /-- Whether a failure struck the call. -/
  struck : Bool

/-- The calls that were made, in order. -/
abbrev Trace := List Event

/-- A call is answered: it has its effect, or a failure strikes it. -/
inductive Scene.Answers (strikes : Strikes) (s : Scene) : Event → Scene → Prop
  | performed (c : Call) : Answers strikes s ⟨c, (s.perform c).1, false⟩ (s.perform c).2
  | struck {c : Call} {failure : Failure} (hstrikes : strikes s.world.files c failure) :
      Answers strikes s ⟨c, .error failure, true⟩ s

/-- A program runs to its end. -/
inductive Program.Runs (strikes : Strikes) {α : Type} : Scene → Program α → Trace → α → Scene → Prop
  | done (s : Scene) (value : α) : Runs strikes s (.done value) [] value s
  | call {s s' s'' : Scene} {e : Event} {next : e.call.Answer → Program α} {rest : Trace} {value : α}
      (hanswer : Scene.Answers strikes s e s') (hrest : Runs strikes s' (next e.answer) rest value s'') :
      Runs strikes s (.call e.call next) (e :: rest) value s''

/-- How a program stands to the staging file. -/
inductive Standing
  /-- It has not created it. -/
  | outside
  /-- It created the staging file and did not let go of it. -/
  | holding (file : FileId)
  /-- It removed the staging file that it had created. -/
  | removed
  /-- It installed the staging file that it had created. -/
  | installed
  deriving DecidableEq, Repr

/-- How a program stands after an event that changes this. -/
def Event.turn? : Event → Option Standing
  | ⟨.createStaging _ _, .ok file, _⟩ => some (.holding file)
  | ⟨.unlinkStaging _, .ok _, _⟩ => some .removed
  | ⟨.install _ _, .ok _, _⟩ => some .installed
  | _ => none

theorem Event.turn?_ne_outside (e : Event) : e.turn? ≠ some .outside := by
  unfold turn?
  split <;> simp

/-- How a program stands after an event. -/
def Standing.next (st : Standing) (e : Event) : Standing := e.turn?.getD st

namespace Trace

/-- How a program stands after its calls. -/
def standing (tr : Trace) : Standing := tr.foldl Standing.next .outside

/-- Whether a failure struck one of the calls. -/
def Disturbed (tr : Trace) : Prop := ∃ e ∈ tr, e.struck = true

/-- Whether a call that cleans up failed: the one that lets go of the created file, or the one that
    removes it. -/
def CleanUpFailed (tr : Trace) : Prop :=
  ∃ e ∈ tr, (∃ failure, e.answer = .error failure) ∧
    ((∃ file, e.call = .abandonStream file) ∨ ∃ path, e.call = .unlinkStaging path)

@[simp] theorem standing_nil : standing [] = .outside := rfl

@[simp] theorem standing_append_singleton (tr : Trace) (e : Event) :
    standing (tr ++ [e]) = (standing tr).next e := by
  simp [standing]

theorem Disturbed.extended {tr tr' : Trace} (hdisturbed : tr.Disturbed) (hbegins : tr <+: tr') :
    tr'.Disturbed := by
  obtain ⟨e, he, hstruck⟩ := hdisturbed
  exact ⟨e, hbegins.subset he, hstruck⟩

theorem CleanUpFailed.extended {tr tr' : Trace} (hfailed : tr.CleanUpFailed) (hbegins : tr <+: tr') :
    tr'.CleanUpFailed := by
  obtain ⟨e, he, hfailed⟩ := hfailed
  exact ⟨e, hbegins.subset he, hfailed⟩

end Trace

namespace Scene

theorem meet_of_faults_eq_nil {session : Session} (hfaults : session.faults = []) (c : Call) :
    session.meet c = (none, session) := by
  cases hpoint : c.faultPoint? with
  | none => simp [Session.meet, hpoint]
  | some point =>
    obtain ⟨script, typed, prompts, faults⟩ := session
    subst hfaults
    simp [Session.meet, hpoint, FaultPlan.meet]

theorem answer_eq_perform {s : Scene} (hfaults : s.session.faults = []) (c : Call) :
    Scene.answer c s = s.perform c := by
  simp only [answer, meet_of_faults_eq_nil hfaults]

theorem faults_perform (s : Scene) (c : Call) : (s.perform c).2.session.faults = s.session.faults := by
  cases c <;> try rfl
  simp only [perform, Session.readTerminal]
  split <;> rfl

theorem runs_of_faults_eq_nil {α : Type} (strikes : Strikes) (p : Program α) {s : Scene}
    (hfaults : s.session.faults = []) :
    ∃ tr, p.Runs strikes s tr (Id.run (StateT.run (p.run Scene.answer) s)).1
      (Id.run (StateT.run (p.run Scene.answer) s)).2 ∧ ¬ tr.Disturbed := by
  induction p generalizing s with
  | done value => exact ⟨[], .done s value, by simp [Trace.Disturbed]⟩
  | call c next ih =>
    have hanswer := answer_eq_perform hfaults c
    have hrest : (s.perform c).2.session.faults = [] := (faults_perform s c).trans hfaults
    obtain ⟨rest, hruns, hcalm⟩ := ih (s.perform c).1 hrest
    have hrun : Id.run (StateT.run (Program.run Scene.answer (.call c next)) s) =
        Id.run (StateT.run (Program.run Scene.answer (next (s.perform c).1)) (s.perform c).2) := by
      rw [← hanswer]
      rfl
    rw [hrun]
    refine ⟨⟨c, (s.perform c).1, false⟩ :: rest, .call (.performed c) hruns, ?_⟩
    rintro ⟨e, he, hstruck⟩
    rcases List.mem_cons.1 he with rfl | he
    · cases hstruck
    · exact hcalm ⟨e, he, hstruck⟩

/-- An action that is run in a scene without faults runs to the end that the scene gives it. -/
theorem runs_of_run {σ α : Type} (s : Scene) (strikes : Strikes) (state : σ) (action : Action σ α)
    (hfaults : s.session.faults = []) :
    ∃ tr, (action state).Runs strikes s tr (s.run state action).1 (s.run state action).2 ∧
      ¬tr.Disturbed :=
  runs_of_faults_eq_nil strikes (action state) hfaults

theorem exists_of_run_bind {σ α β : Type} {s : Scene} {state : σ} {first : Action σ α}
    {next : α → Action σ β} {value : β} (hrun : (s.run state (first >>= next)).1.1 = .ok value) :
    ∃ a, (s.run state first).1.1 = .ok a ∧
      ((s.run state first).2.run (s.run state first).1.2 (next a)).1.1 = .ok value := by
  rw [run_bind] at hrun
  generalize s.run state first = result at hrun ⊢
  obtain ⟨⟨outcome, state'⟩, s'⟩ := result
  cases outcome with
  | ok a => exact ⟨a, rfl, hrun⟩
  | error failure => cases hrun

theorem exists_of_run_map {σ α β : Type} {s : Scene} {state : σ} {action : Action σ α}
    {f : α → β} {value : β} (hrun : (s.run state (f <$> action)).1.1 = .ok value) :
    ∃ a, (s.run state action).1.1 = .ok a ∧ f a = value := by
  have hmap : f <$> action = action >>= fun a => pure (f a) := (bind_pure_comp f action).symm
  rw [hmap] at hrun
  obtain ⟨a, haction, hpure⟩ := exists_of_run_bind hrun
  cases hpure
  exact ⟨a, haction, rfl⟩

end Scene

end CredentialStore
