import CredentialStore.Proofs.Run.Explained
import CredentialStore.Store.Commit

namespace CredentialStore

/-- Failures of any kind at any calls on the files. An error of the store is made by the work itself, and
    no call fails with one. -/
def Strikes.foreign : Strikes := fun _ c failure =>
  c.faultPoint?.isSome ∧ ∀ error, failure ≠ .credential error

theorem Strikes.onFiles_foreign : foreign.OnFiles := fun _ _ _ hstrikes => hstrikes.1

/-- Whether an event is a call on the files that failed. -/
def Event.Fails (e : Event) (failure : Failure) : Prop :=
  e.call.faultPoint?.isSome ∧ e.answer = .error failure

/-- The failure of an event. -/
def Event.failure? (e : Event) : Option Failure :=
  match e.answer with
  | .ok _ => none
  | .error failure => some failure

theorem Event.failure?_eq_some {e : Event} {failure : Failure} :
    e.failure? = some failure ↔ e.answer = .error failure := by
  unfold failure?
  split <;> simp_all

theorem Event.failure?_eq_none {e : Event} : e.failure? = none ↔ ∃ reply, e.answer = .ok reply := by
  unfold failure?
  split <;> simp_all

instance (e : Event) (failure : Failure) : Decidable (e.Fails failure) :=
  decidable_of_iff (e.call.faultPoint?.isSome ∧ e.failure? = some failure)
    (and_congr_right fun _ => Event.failure?_eq_some)

theorem Event.Fails.unique {e : Event} {failure failure' : Failure} (hfails : e.Fails failure)
    (hfails' : e.Fails failure') : failure = failure' := by
  have hanswer := hfails.2.symm.trans hfails'.2
  cases hanswer
  rfl

/-- Whether the work goes on where a call fails with an error of the file system: a file is not there, or
    links cannot be made. -/
def Call.Tolerates : Call → SystemError → Prop
  | openPrimary _, cause | unlinkBackup _, cause | copyBackup _ _, cause => cause = .numbered .notFound
  | linkBackup _ _, cause => cause = .numbered .notFound ∨ Commit.isLinkUnsupported cause = true
  | _, _ => False

/-- Whether a call is made to clean up after a failure. The primary file is closed, and the log is written
    to, in other cases as well. -/
def Call.CleansUp : Call → Prop
  | closePrimary _ | closeStaging _ | abandonStream _ | unlinkStaging _ => True
  | log (.closeFailed _) | log (.removeFailed _ _) => True
  | _ => False

/-- Whether nobody meets the errors of a call. -/
def Call.Bare : Call → Prop
  | closePrimary _ | abandonStream _ => True
  | _ => False

/-- Whether the clean-up goes on after a call that failed with an error of the file system, by the calls
    that follow: the staging file was removed as well as it can be, or it is noted that it was not closed. -/
def Call.Excused (c : Call) (rest : Trace) : Prop :=
  match c with
  | .unlinkStaging _ => True
  | .closeStaging _ => ∃ staging, rest.head?.map Event.call = some (.log (.closeFailed staging))
  | _ => False

/-- The error of the store that names an error of the file system at a call. The store is busy where its
    staging file is there already. -/
def Call.names : Call → Text → SystemError → CredentialError
  | createStaging path _, _, .numbered .alreadyExists => .busy path
  | _, description, cause => .onFile description cause

def Call.Creates : Call → Prop
  | createStaging _ _ => True
  | _ => False

theorem Call.names_eq {c : Call} {cause : SystemError}
    (hother : c.Creates → cause ≠ .numbered .alreadyExists) (description : Text) :
    c.names description cause = .onFile description cause := by
  unfold names
  split
  · exact absurd rfl (hother trivial)
  · rfl

/-- Whether a failure tells the failure of a call: it is the same, or it names it. -/
inductive Call.Tells (c : Call) : Failure → Failure → Prop
  | same (failure : Failure) : Tells c failure failure
  | named (description : Text) (cause : SystemError) :
      Tells c (.credential (c.names description cause)) (.system cause)

theorem Call.Tells.eq_system {c : Call} {failure : Failure} {cause : SystemError}
    (htells : c.Tells (.system cause) failure) : failure = .system cause := by
  cases htells
  rfl

theorem Call.Tells.eq_of_other {c : Call} {failure known : Failure} (htells : c.Tells known failure)
    (hother : ∀ cause, failure ≠ .system cause) : known = failure := by
  cases htells with
  | same => rfl
  | named _ cause => exact absurd rfl (hother cause)

namespace Trace

/-- Whether every failure of a call was tolerated. -/
def Smooth (tr : Trace) : Prop :=
  ∀ e ∈ tr, ∀ failure, e.Fails failure → ∃ cause, failure = .system cause ∧ e.call.Tolerates cause

/-- Whether all calls clean up and every failure of one was excused. -/
def Cleaning : Trace → Prop
  | [] => True
  | e :: rest => e.call.CleansUp ∧
      (∀ failure, e.Fails failure → ∃ cause, failure = .system cause ∧ e.call.Excused rest) ∧
      Cleaning rest

/-- Whether the clean-up broke off at an event: a failure of another kind struck it, or nobody meets it. -/
def BrokenOff (e : Event) (failure : Failure) : Prop :=
  e.call.CleansUp ∧ e.Fails failure ∧
    ((e.struck = true ∧ ∀ cause, failure ≠ .system cause) ∨ e.call.Bare)

/-- How calls lead to a failure. Errors of the file system come out as they are only at the `bare` calls;
    `made` are the failures of the work that no call is behind. -/
inductive LeadsTo (bare : Call → Prop) (made : Failure → Prop) : Trace → Failure → Prop
  | made {first rest : Trace} {failure : Failure} (hfirst : first.Smooth) (hrest : rest.Cleaning)
      (hmade : made failure) : LeadsTo bare made (first ++ rest) failure
  | told {first rest : Trace} {e : Event} {failure known : Failure} (hfirst : first.Smooth)
      (hfails : e.Fails failure) (hrest : rest.Cleaning) (htells : e.call.Tells known failure)
      (hbare : (∃ cause, known = .system cause) → bare e.call) : LeadsTo bare made (first ++ e :: rest) known
  | overruled {first rest : Trace} {e : Event} {failure known : Failure} (hbroken : BrokenOff e failure)
      (hrest : rest.Cleaning) (htells : e.call.Tells known failure) :
      LeadsTo bare made (first ++ e :: rest) known

/-- Whether calls lead to an outcome. -/
def Tells (bare : Call → Prop) (made : Failure → Prop) {α : Type} (tr : Trace) : Except Failure α → Prop
  | .ok _ => tr.Smooth
  | .error failure => tr.LeadsTo bare made failure

variable {bare bare' : Call → Prop} {made made' : Failure → Prop} {tr rest : Trace} {failure : Failure}

/-- Where a trace is cut in two, each of its events lies before the cut or behind it. -/
theorem before_or_behind {first rest before after : Trace} {e : Event}
    (hcut : before ++ e :: after = first ++ rest) :
    (∃ middle, first = before ++ e :: middle ∧ after = middle ++ rest) ∨
      ∃ middle, before = first ++ middle ∧ rest = middle ++ e :: after := by
  obtain ⟨middle, rfl, hmiddle⟩ | ⟨middle, rfl, hmiddle⟩ := List.append_eq_append_iff.1 hcut
  · cases middle with
    | nil => exact .inr ⟨[], by simp, hmiddle.symm⟩
    | cons _ middle =>
      obtain ⟨rfl, rfl⟩ := List.cons.inj hmiddle
      exact .inl ⟨middle, rfl, rfl⟩
  · exact .inr ⟨middle, rfl, hmiddle⟩

theorem smooth_nil : Smooth [] := fun _ he => by cases he

theorem Smooth.append (hfirst : tr.Smooth) (hrest : rest.Smooth) : Smooth (tr ++ rest) := by
  intro e he
  rcases List.mem_append.1 he with he | he
  · exact hfirst e he
  · exact hrest e he

/-- A call that gives a reply is smooth. -/
theorem smooth_of_ok {c : Call} {reply : c.Reply} {struck : Bool} : Smooth [⟨c, .ok reply, struck⟩] := by
  intro e he failure hfails
  obtain rfl := List.mem_singleton.1 he
  cases hfails.2

theorem smooth_of_tolerates {c : Call} {cause : SystemError} {struck : Bool}
    (htolerates : c.Tolerates cause) : Smooth [⟨c, .error (.system cause), struck⟩] := by
  intro e he failure hfails
  obtain rfl := List.mem_singleton.1 he
  cases hfails.2
  exact ⟨cause, rfl, htolerates⟩

theorem Excused.append {c : Call} (hexcused : c.Excused tr) (rest : Trace) : c.Excused (tr ++ rest) := by
  cases c with
  | unlinkStaging path => trivial
  | closeStaging file =>
    obtain ⟨staging, hnoted⟩ := hexcused
    refine ⟨staging, ?_⟩
    cases tr with
    | nil => cases hnoted
    | cons e tr => exact hnoted
  | _ => exact hexcused

theorem Cleaning.append (hfirst : tr.Cleaning) (hrest : rest.Cleaning) : Cleaning (tr ++ rest) := by
  induction tr with
  | nil => exact hrest
  | cons e tr ih =>
    obtain ⟨hclean, hexcused, htail⟩ := hfirst
    refine ⟨hclean, fun failure hfails => ?_, ih htail⟩
    obtain ⟨cause, hcause, hexcused⟩ := hexcused failure hfails
    exact ⟨cause, hcause, Excused.append hexcused rest⟩

theorem Cleaning.cleansUp (hcleaning : tr.Cleaning) {e : Event} (he : e ∈ tr) : e.call.CleansUp := by
  induction tr with
  | nil => cases he
  | cons e' tr ih =>
    rcases List.mem_cons.1 he with rfl | he
    · exact hcleaning.1
    · exact ih hcleaning.2.2 he

/-- An event of the clean-up that failed is excused by what follows it. -/
theorem Cleaning.excused {first : Trace} {e : Event} (hcleaning : Cleaning (first ++ e :: rest))
    (hfails : e.Fails failure) : ∃ cause, failure = .system cause ∧ e.call.Excused rest := by
  induction first with
  | nil => exact hcleaning.2.1 failure hfails
  | cons e' first ih => exact ih hcleaning.2.2

/-- A failure of the work leads to itself. -/
theorem LeadsTo.of_made (hmade : made failure) : LeadsTo bare made [] failure :=
  .made smooth_nil trivial hmade

/-- One call leads to its failure. -/
theorem LeadsTo.of_told {e : Event} {known : Failure} (hfails : e.Fails failure)
    (htells : e.call.Tells known failure) (hbare : (∃ cause, known = .system cause) → bare e.call) :
    LeadsTo bare made [e] known :=
  .told smooth_nil hfails trivial htells hbare

/-- Work that goes smoothly can come before. -/
theorem LeadsTo.after {first : Trace} (hleads : tr.LeadsTo bare made failure) (hfirst : first.Smooth) :
    LeadsTo bare made (first ++ tr) failure := by
  cases hleads with
  | made hfirst' hrest hmade =>
    rw [← List.append_assoc]
    exact .made (hfirst.append hfirst') hrest hmade
  | told hfirst' hfails hrest htells hbare =>
    rw [← List.append_assoc]
    exact .told (hfirst.append hfirst') hfails hrest htells hbare
  | overruled hbroken hrest htells =>
    rw [← List.append_assoc]
    exact .overruled hbroken hrest htells

/-- What is cleaned up afterwards does not change what is told. -/
theorem LeadsTo.cleaned (hleads : tr.LeadsTo bare made failure) (hrest : rest.Cleaning) :
    LeadsTo bare made (tr ++ rest) failure := by
  cases hleads with
  | made hfirst hrest' hmade =>
    rw [List.append_assoc]
    exact .made hfirst (hrest'.append hrest) hmade
  | told hfirst hfails hrest' htells hbare =>
    rw [List.append_assoc, List.cons_append]
    exact .told hfirst hfails (hrest'.append hrest) htells hbare
  | overruled hbroken hrest' htells =>
    rw [List.append_assoc, List.cons_append]
    exact .overruled hbroken (hrest'.append hrest) htells

/-- A failure that is no error of the file system is told in any case. -/
theorem LeadsTo.of_bare (hleads : tr.LeadsTo bare made failure) (hsystem : ∀ cause, failure ≠ .system cause) :
    tr.LeadsTo bare' made failure := by
  cases hleads with
  | made hfirst hrest hmade => exact .made hfirst hrest hmade
  | told hfirst hfails hrest htells _ =>
    exact .told hfirst hfails hrest htells fun ⟨cause, hcause⟩ => absurd hcause (hsystem cause)
  | overruled hbroken hrest htells => exact .overruled hbroken hrest htells

theorem not_creates_of_cleansUp {c : Call} (hclean : c.CleansUp) : ¬c.Creates := by
  cases c <;> first | exact False.elim hclean | exact fun hcreates => hcreates

/-- An error of the file system that comes out of the work can be named by an error of the store. -/
theorem LeadsTo.named {cause : SystemError} (hleads : tr.LeadsTo bare made (.system cause))
    (hmade : ¬made (.system cause)) (hbare : ∀ c, bare c → ¬c.Creates) (description : Text) :
    tr.LeadsTo bare' made' (.credential (.onFile description cause)) := by
  have htells : ∀ c : Call, ¬c.Creates →
      c.Tells (.credential (.onFile description cause)) (.system cause) := by
    intro c hother
    rw [← Call.names_eq (c := c) fun hcreates => absurd hcreates hother]
    exact .named description cause
  cases hleads with
  | made _ _ h => exact absurd h hmade
  | told hfirst hfails hrest hsame hcomes =>
    obtain rfl := hsame.eq_system
    exact .told hfirst hfails hrest (htells _ (hbare _ (hcomes ⟨cause, rfl⟩))) fun ⟨_, h⟩ => by cases h
  | overruled hbroken hrest hsame =>
    obtain rfl := hsame.eq_system
    exact .overruled hbroken hrest (htells _ (not_creates_of_cleansUp hbroken.1))

/-- Whether the calls succeeded whose errors nobody meets: the primary file was closed, and a created file
    that could not be made ready was let go of. -/
def BareSucceed (tr : Trace) : Prop := ∀ e ∈ tr, e.call.Bare → ∃ reply, e.answer = .ok reply

/-- Whether the only failures that struck are errors of the file system. -/
def StruckBySystem (tr : Trace) : Prop :=
  ∀ e ∈ tr, e.struck = true → ∃ cause, e.answer = .error (.system cause)

theorem not_brokenOff (hbare : tr.BareSucceed) (hstruck : tr.StruckBySystem) {e : Event} (he : e ∈ tr) :
    ¬BrokenOff e failure := by
  rintro ⟨-, hfails, ⟨hstrikes, hsystem⟩ | hunmet⟩
  · obtain ⟨cause, hanswer⟩ := hstruck e he hstrikes
    exact hsystem cause (hfails.unique ⟨hfails.1, hanswer⟩)
  · obtain ⟨reply, hanswer⟩ := hbare e he hunmet
    cases hanswer.symm.trans hfails.2

theorem LeadsTo.ne_system (hleads : tr.LeadsTo (fun _ => False) made failure)
    (hmade : ∀ cause, ¬made (.system cause)) (hbare : tr.BareSucceed) (hstruck : tr.StruckBySystem)
    (cause : SystemError) : failure ≠ .system cause := by
  rintro rfl
  cases hleads with
  | made _ _ h => exact hmade cause h
  | told _ _ _ _ hcomes => exact hcomes ⟨cause, rfl⟩
  | overruled hbroken => exact not_brokenOff hbare hstruck (by simp) hbroken

/-- Where no call fails with an error of the store, such an error is the work's own, or it names an error of
    the file system. -/
theorem LeadsTo.named_or_made {error : CredentialError} (hleads : tr.LeadsTo bare made (.credential error))
    (hforeign : ∀ e ∈ tr, ¬e.Fails (.credential error)) :
    made (.credential error) ∨ ∃ (c : Call) (description : Text) (cause : SystemError),
      error = c.names description cause := by
  cases hleads with
  | made _ _ hmade => exact .inl hmade
  | told _ hfails _ htells _ =>
    cases htells with
    | same => exact absurd hfails (hforeign _ (by simp))
    | named description cause => exact .inr ⟨_, description, cause, rfl⟩
  | overruled hbroken _ htells =>
    cases htells with
    | same => exact absurd hbroken.2.1 (hforeign _ (by simp))
    | named description cause => exact .inr ⟨_, description, cause, rfl⟩

/-- Where calls fail with errors of the file system alone, the work fails for a reason of its own or with an
    error of the store. -/
theorem LeadsTo.made_or_credential (hleads : tr.LeadsTo (fun _ => False) made failure) (hbare : tr.BareSucceed)
    (hsystem : ∀ e ∈ tr, ∀ failure, e.Fails failure → ∃ cause, failure = .system cause) :
    made failure ∨ ∃ error, failure = .credential error := by
  cases hleads with
  | made _ _ hmade => exact .inl hmade
  | told _ hfails _ htells hcomes =>
    obtain ⟨cause, rfl⟩ := hsystem _ (by simp) _ hfails
    cases htells with
    | same => exact False.elim (hcomes ⟨cause, rfl⟩)
    | named => exact .inr ⟨_, rfl⟩
  | overruled hbroken =>
    obtain ⟨-, hfails, ⟨-, hother⟩ | hunmet⟩ := hbroken
    · obtain ⟨cause, hcause⟩ := hsystem _ (by simp) _ hfails
      exact absurd hcause (hother cause)
    · obtain ⟨reply, hanswer⟩ := hbare _ (by simp) hunmet
      cases hanswer.symm.trans hfails.2

end Trace

namespace Program

variable {α : Type} {p : Program α} {s s' : Scene} {tr : Trace} {value : α}

theorem Runs.mono {strikes strikes' : Strikes}
    (himp : ∀ fs c failure, strikes fs c failure → strikes' fs c failure)
    (hruns : p.Runs strikes s tr value s') : p.Runs strikes' s tr value s' := by
  induction hruns with
  | done s value => exact .done s value
  | call hanswer hrest ih =>
    cases hanswer with
    | performed c => exact .call (.performed c) ih
    | struck hstrikes => exact .call (.struck (himp _ _ _ hstrikes)) ih

/-- Where no failure strikes, it does not matter which can. -/
theorem Runs.of_calm {strikes strikes' : Strikes} (hcalm : ∀ e ∈ tr, e.struck = false)
    (hruns : p.Runs strikes s tr value s') : p.Runs strikes' s tr value s' := by
  induction hruns with
  | done s value => exact .done s value
  | call hanswer hrest ih =>
    have hrest := ih fun e he => hcalm e (List.mem_cons_of_mem _ he)
    cases hanswer with
    | performed c => exact .call (.performed c) hrest
    | struck => cases hcalm _ List.mem_cons_self

/-- Calls that are not on the files are not struck. -/
theorem Runs.calm_of_points (hruns : p.Runs .foreign s tr value s')
    (hpoints : ∀ e ∈ tr, e.call.faultPoint? = none) : ∀ e ∈ tr, e.struck = false := by
  induction hruns with
  | done => exact fun e he => by cases he
  | call hanswer hrest ih =>
    intro e he
    rcases List.mem_cons.1 he with rfl | he
    · cases hanswer with
      | performed => rfl
      | struck hstrikes =>
        exact absurd hstrikes (Strikes.onFiles_foreign.not_strikes (hpoints _ List.mem_cons_self))
    · exact ih (fun e he => hpoints e (List.mem_cons_of_mem _ he)) e he

/-- A run of calls that no failure strikes is the one that is computed. -/
theorem Runs.eq_run (huses : p.Uses (·.faultPoint? = none)) (hruns : p.Runs .foreign s tr value s') :
    Id.run (StateT.run (p.run Scene.answer) s) = (value, s') := by
  induction hruns with
  | done => rfl
  | call hanswer hrest ih =>
    cases hanswer with
    | struck hstrikes => exact absurd hstrikes (Strikes.onFiles_foreign.not_strikes huses.1)
    | performed c =>
      have hanswered : ∀ s, Scene.answer c s = s.perform c := fun s => by
        simp only [Scene.answer, Session.meet, huses.1]
      rw [← ih (huses.2 _), ← hanswered]
      rfl

end Program

/-- A call had its effect, or a failure struck it and it had none. -/
theorem Scene.Answers.performed_or_struck {strikes : Strikes} {s s' : Scene} {e : Event}
    (hanswer : Scene.Answers strikes s e s') :
    (e.struck = false ∧ e.answer = (s.perform e.call).1 ∧ s' = (s.perform e.call).2) ∨
      ∃ failure, e.struck = true ∧ e.answer = .error failure ∧
        strikes s.world.files e.call failure ∧ s' = s := by
  cases hanswer with
  | performed => exact .inl ⟨rfl, rfl, rfl⟩
  | struck hstrikes => exact .inr ⟨_, rfl, rfl, hstrikes, rfl⟩

theorem Scene.Answers.ne_credential_of_fails {s s' : Scene} {e : Event} {failure : Failure}
    (hanswer : Scene.Answers .foreign s e s') (hfails : e.Fails failure) (error : CredentialError) :
    failure ≠ .credential error := by
  obtain ⟨hpoint, hanswered⟩ := hfails
  obtain ⟨-, hperformed, -⟩ | ⟨failure', -, hstruck, hstrikes, -⟩ := hanswer.performed_or_struck
  · have hperform : (s.perform e.call).1 = (s.world.answer e.call).1 := by
      cases hcall : e.call <;> first | rfl | simp [hcall, Call.faultPoint?] at hpoint
    rintro rfl
    exact World.answer_ne_credential hpoint (hperform.symm.trans (hperformed.symm.trans hanswered))
  · cases hstruck.symm.trans hanswered
    exact hstrikes.2 error

/-- No call on the files fails with an error of the store. -/
theorem Program.Runs.ne_credential_of_fails {α : Type} {p : Program α} {s s' : Scene} {tr : Trace} {value : α}
    (hruns : p.Runs .foreign s tr value s') {e : Event} (he : e ∈ tr) {failure : Failure}
    (hfails : e.Fails failure) (error : CredentialError) : failure ≠ .credential error := by
  induction hruns with
  | done => cases he
  | call hanswer hrest ih =>
    rcases List.mem_cons.1 he with rfl | he
    · exact hanswer.ne_credential_of_fails hfails error
    · exact ih he

namespace Action

variable {σ τ α β : Type} {bare : Call → Prop} {made : Failure → Prop} {state state' : σ} {s s' : Scene}
  {tr : Trace}

/-- A call that succeeded had its effect. -/
theorem Runs.of_ask_ok {strikes : Strikes} {c : Call} {reply : c.Reply}
    (hruns : (ask c : Action σ c.Reply).Runs strikes state s tr (.ok reply) state' s') :
    state' = state ∧ tr = [⟨c, .ok reply, false⟩] ∧ (s.perform c).1 = .ok reply ∧ s' = (s.perform c).2 := by
  obtain ⟨hstate, struck, rfl, hanswer⟩ := Runs.of_ask hruns
  obtain ⟨rfl, hperformed, hs⟩ | ⟨_, -, hfailed, -⟩ := hanswer.performed_or_struck
  · exact ⟨hstate, rfl, hperformed.symm, hs⟩
  · cases hfailed

/-- An action whose errors of the file system are met succeeds, fails for another cause, or goes on with
    the handler. -/
theorem Runs.of_onSystemError {strikes : Strikes} {action : Action σ α} {handler : SystemError → Action σ α}
    {outcome : Except Failure α}
    (hruns : (action.onSystemError handler).Runs strikes state s tr outcome state' s') :
    (∃ value, outcome = .ok value ∧ action.Runs strikes state s tr (.ok value) state' s') ∨
    (∃ failure, (∀ cause, failure ≠ .system cause) ∧ outcome = .error failure ∧
      action.Runs strikes state s tr (.error failure) state' s') ∨
    ∃ cause state₁ s₁ tr₁ tr₂, tr = tr₁ ++ tr₂ ∧
      action.Runs strikes state s tr₁ (.error (.system cause)) state₁ s₁ ∧
      (handler cause).Runs strikes state₁ s₁ tr₂ outcome state' s' := by
  obtain ⟨result, state₁, s₁, tr₁, tr₂, rfl, hattempt, hrest⟩ | ⟨_, -, hattempt⟩ := hruns.of_bind
  · obtain ⟨_, hresult, haction⟩ := Runs.of_attempt hattempt
    cases hresult
    cases result with
    | ok value =>
      obtain ⟨rfl, rfl, rfl, rfl⟩ := Runs.of_pure hrest
      rw [List.append_nil]
      exact .inl ⟨value, rfl, haction⟩
    | error failure =>
      cases failure with
      | system cause => exact .inr (.inr ⟨cause, state₁, s₁, tr₁, tr₂, rfl, haction, hrest⟩)
      | _ =>
        obtain ⟨rfl, rfl, rfl, rfl⟩ := Runs.of_throw hrest
        rw [List.append_nil]
        exact .inr (.inl ⟨_, fun _ hcause => Failure.noConfusion hcause, rfl, haction⟩)
  · obtain ⟨_, hresult, -⟩ := Runs.of_attempt hattempt
    cases hresult

/-- What succeeds succeeded at once, or its handler did. -/
theorem Runs.of_onSystemError_ok {strikes : Strikes} {action : Action σ α} {handler : SystemError → Action σ α}
    {value : α} (hruns : (action.onSystemError handler).Runs strikes state s tr (.ok value) state' s') :
    action.Runs strikes state s tr (.ok value) state' s' ∨
      ∃ cause state₁ s₁ tr₁ tr₂, tr = tr₁ ++ tr₂ ∧
        action.Runs strikes state s tr₁ (.error (.system cause)) state₁ s₁ ∧
        (handler cause).Runs strikes state₁ s₁ tr₂ (.ok value) state' s' := by
  obtain ⟨_, hok, haction⟩ | ⟨_, -, hok, -⟩ | hmet := Runs.of_onSystemError hruns
  · cases hok
    exact .inl haction
  · cases hok
  · exact .inr hmet

/-- What succeeds although its errors are renamed met none. -/
theorem Runs.of_renaming {strikes : Strikes} {action : Action σ α} {rename : SystemError → Failure} {value : α}
    (hruns : (action.onSystemError fun e => throw (rename e)).Runs strikes state s tr (.ok value) state' s') :
    action.Runs strikes state s tr (.ok value) state' s' := by
  obtain haction | ⟨_, _, _, _, _, -, -, hthrow⟩ := Runs.of_onSystemError_ok hruns
  · exact haction
  · cases (Runs.of_throw hthrow).2.1

/-- What fails when its errors are renamed failed itself. -/
theorem Runs.of_renaming_error {strikes : Strikes} {action : Action σ α} {rename : SystemError → Failure}
    {failure : Failure}
    (hruns : (action.onSystemError fun e => throw (rename e)).Runs strikes state s tr (.error failure) state' s') :
    ∃ failure', action.Runs strikes state s tr (.error failure') state' s' := by
  obtain ⟨_, hok, -⟩ | ⟨failure', -, -, haction⟩ | ⟨cause, _, _, _, _, rfl, haction, hthrow⟩ :=
    Runs.of_onSystemError hruns
  · cases hok
  · exact ⟨failure', haction⟩
  · obtain ⟨rfl, -, rfl, rfl⟩ := Runs.of_throw hthrow
    rw [List.append_nil]
    exact ⟨.system cause, haction⟩

/-- An action is followed by another one, whether or not it fails. -/
theorem Runs.of_thenAlways {strikes : Strikes} {action : Action σ α} {last : Action σ Unit}
    {outcome : Except Failure α}
    (hruns : (action.thenAlways last).Runs strikes state s tr outcome state' s') :
    ∃ result state₁ s₁ tr₁ tr₂, tr = tr₁ ++ tr₂ ∧ action.Runs strikes state s tr₁ result state₁ s₁ ∧
      ((outcome = result ∧ last.Runs strikes state₁ s₁ tr₂ (.ok ()) state' s') ∨
        ∃ worse, outcome = .error worse ∧ last.Runs strikes state₁ s₁ tr₂ (.error worse) state' s') := by
  obtain ⟨result, state₁, s₁, tr₁, tr₂, rfl, hattempt, hrest⟩ | ⟨_, -, hattempt⟩ := hruns.of_bind
  · obtain ⟨_, hresult, haction⟩ := Runs.of_attempt hattempt
    cases hresult
    refine ⟨result, state₁, s₁, tr₁, tr₂, rfl, haction, ?_⟩
    cases result with
    | ok value =>
      obtain ⟨_, state₂, s₂, tr₃, tr₄, rfl, hlast, hpure⟩ | ⟨worse, rfl, hlast⟩ := Runs.of_bind hrest
      · obtain ⟨rfl, rfl, rfl, rfl⟩ := Runs.of_pure hpure
        rw [List.append_nil]
        exact .inl ⟨rfl, hlast⟩
      · exact .inr ⟨worse, rfl, hlast⟩
    | error failure =>
      obtain ⟨_, state₂, s₂, tr₃, tr₄, rfl, hlast, hthrow⟩ | ⟨worse, rfl, hlast⟩ := Runs.of_bind hrest
      · obtain ⟨rfl, rfl, rfl, rfl⟩ := Runs.of_throw hthrow
        rw [List.append_nil]
        exact .inl ⟨rfl, hlast⟩
      · exact .inr ⟨worse, rfl, hlast⟩
  · obtain ⟨_, hresult, -⟩ := Runs.of_attempt hattempt
    cases hresult

/-- What succeeds succeeded in both actions. -/
theorem Runs.of_thenAlways_ok {strikes : Strikes} {action : Action σ α} {last : Action σ Unit} {value : α}
    (hruns : (action.thenAlways last).Runs strikes state s tr (.ok value) state' s') :
    ∃ state₁ s₁ tr₁ tr₂, tr = tr₁ ++ tr₂ ∧ action.Runs strikes state s tr₁ (.ok value) state₁ s₁ ∧
      last.Runs strikes state₁ s₁ tr₂ (.ok ()) state' s' := by
  obtain ⟨result, state₁, s₁, tr₁, tr₂, rfl, haction, ⟨rfl, hlast⟩ | ⟨_, hfailed, -⟩⟩ :=
    Runs.of_thenAlways hruns
  · exact ⟨state₁, s₁, tr₁, tr₂, rfl, haction, hlast⟩
  · cases hfailed

/-- Whether an action does nothing but clean up: it succeeds, or it breaks off at a failure that it does
    not meet. -/
def Cleans (action : Action σ α) (post : σ → Prop) (state : σ) : Prop :=
  ∀ ⦃s s' : Scene⦄ ⦃tr : Trace⦄ ⦃outcome : Except Failure α⦄ ⦃state' : σ⦄,
    action.Runs .foreign state s tr outcome state' s' → post state' ∧
      (((∃ value, outcome = .ok value) ∧ tr.Cleaning) ∨
        ∃ failure first e, outcome = .error failure ∧ tr = first ++ [e] ∧ Trace.BrokenOff e failure)

/-- Whether an action does no more than to let the clean-up go on after a call that failed. -/
def Excuses (c : Call) (action : Action σ α) (state : σ) : Prop :=
  ∀ ⦃s s' : Scene⦄ ⦃tr : Trace⦄ ⦃outcome : Except Failure α⦄ ⦃state' : σ⦄,
    action.Runs .foreign state s tr outcome state' s' →
      (∃ value, outcome = .ok value) ∧ state' = state ∧ tr.Cleaning ∧ c.Excused tr

theorem excuses_pure {c : Call} {value : α} (hexcused : c.Excused []) :
    (pure value : Action σ α).Excuses c state := by
  intro s s' tr outcome state' hruns
  obtain ⟨rfl, rfl, rfl, rfl⟩ := Runs.of_pure hruns
  exact ⟨⟨value, rfl⟩, rfl, trivial, hexcused⟩

theorem excuses_note {c : Call} {event : Log.Event} (hclean : (Call.log event).CleansUp)
    (hexcused : c.Excused [⟨.log event, .ok (), false⟩]) :
    (note event : Action σ Unit).Excuses c state := by
  intro s s' tr outcome state' hruns
  obtain ⟨rfl, rfl, rfl⟩ := Runs.of_note Strikes.onFiles_foreign hruns
  exact ⟨⟨(), rfl⟩, rfl, ⟨hclean, fun failure hfails => (by cases hfails.2), trivial⟩, hexcused⟩

variable {post : σ → Prop}

theorem cleans_pure {value : α} (hpost : post state) : (pure value : Action σ α).Cleans post state := by
  intro s s' tr outcome state' hruns
  obtain ⟨rfl, rfl, rfl, rfl⟩ := Runs.of_pure hruns
  exact ⟨hpost, .inl ⟨⟨value, rfl⟩, trivial⟩⟩

theorem cleans_get_bind {next : σ → Action σ β} (hnext : (next state).Cleans post state) :
    (get >>= next : Action σ β).Cleans post state := hnext

theorem cleans_modify_bind {f : σ → σ} {next : PUnit → Action σ β}
    (hnext : (next ⟨⟩).Cleans post (f state)) :
    (modify f >>= next : Action σ β).Cleans post state := hnext

theorem cleans_bind {first : Action σ α} {next : α → Action σ β} (hfailed : ∀ state, post state)
    (hfirst : first.Cleans (fun state => ∀ value, (next value).Cleans post state) state) :
    (first >>= next).Cleans post state := by
  intro s s' tr outcome state' hruns
  refine ⟨hfailed state', ?_⟩
  obtain ⟨value, state₁, s₁, tr₁, tr₂, rfl, hbegin, hnext⟩ | ⟨failure, rfl, hbegin⟩ := hruns.of_bind
  · obtain ⟨hcleans, ⟨-, hcleaning⟩ | ⟨_, _, _, hfailure, -⟩⟩ := hfirst hbegin
    · obtain ⟨-, ⟨houtcome, hrest⟩ | ⟨failure, first, e, rfl, rfl, hbroken⟩⟩ := hcleans value hnext
      · exact .inl ⟨houtcome, hcleaning.append hrest⟩
      · exact .inr ⟨failure, tr₁ ++ first, e, rfl, (List.append_assoc _ _ _).symm, hbroken⟩
    · cases hfailure
  · obtain ⟨-, ⟨⟨_, hvalue⟩, -⟩ | hbroken⟩ := hfirst hbegin
    · cases hvalue
    · obtain ⟨failure', first, e, hfailure, htr, hbroken⟩ := hbroken
      cases hfailure
      exact .inr ⟨failure, first, e, rfl, htr, hbroken⟩

/-- A call of the clean-up whose errors nobody meets. -/
theorem cleans_ask {c : Call} (hclean : c.CleansUp) (hbare : c.Bare) (hpoint : c.faultPoint?.isSome)
    (hpost : post state) : (ask c : Action σ c.Reply).Cleans post state := by
  intro s s' tr outcome state' hruns
  obtain ⟨rfl, struck, rfl, -⟩ := Runs.of_ask hruns
  refine ⟨hpost, ?_⟩
  cases outcome with
  | ok reply =>
    exact .inl ⟨⟨reply, rfl⟩, hclean, fun failure hfails => (by cases hfails.2), trivial⟩
  | error failure =>
    exact .inr ⟨failure, [], ⟨c, .error failure, struck⟩, rfl, rfl, hclean, ⟨hpoint, rfl⟩, .inr hbare⟩

/-- A call of the clean-up whose errors are met by going on with it. -/
theorem cleans_met {c : Call} {handler : SystemError → Action σ c.Reply} (hclean : c.CleansUp)
    (hpoint : c.faultPoint?.isSome)
    (hperform : ∀ (s : Scene) failure, (s.perform c).1 = .error failure → ∃ cause, failure = .system cause)
    (hhandler : ∀ cause, (handler cause).Excuses c state) (hpost : post state) :
    ((ask c).onSystemError handler).Cleans post state := by
  intro s s' tr outcome state' hruns
  obtain ⟨reply, rfl, hask⟩ | ⟨failure, hforeign, rfl, hask⟩ | hmet := Runs.of_onSystemError hruns
  · obtain ⟨rfl, struck, rfl, -⟩ := Runs.of_ask hask
    exact ⟨hpost, .inl ⟨⟨reply, rfl⟩, hclean, fun failure hfails => (by cases hfails.2), trivial⟩⟩
  · obtain ⟨rfl, struck, rfl, hanswer⟩ := Runs.of_ask hask
    have hstruck : struck = true := by
      obtain ⟨-, hperformed, -⟩ | ⟨_, hstruck, -⟩ := hanswer.performed_or_struck
      · obtain ⟨cause, hcause⟩ := hperform s failure hperformed.symm
        exact absurd hcause (hforeign cause)
      · exact hstruck
    exact ⟨hpost, .inr ⟨failure, [], _, rfl, rfl, hclean, ⟨hpoint, rfl⟩, .inl ⟨hstruck, hforeign⟩⟩⟩
  · obtain ⟨cause, state₁, s₁, tr₁, tr₂, rfl, hask, hrest⟩ := hmet
    obtain ⟨rfl, struck, rfl, -⟩ := Runs.of_ask hask
    obtain ⟨houtcome, rfl, hcleaning, hexcused⟩ := hhandler cause hrest
    refine ⟨hpost, .inl ⟨houtcome, hclean, fun failure hfails => ?_, hcleaning⟩⟩
    cases hfails.2
    exact ⟨cause, rfl, hexcused⟩

/-- Whether an action tells what its calls lead to, and ends in a postcondition on its outcome and its
    state. -/
def Tells (bare : Call → Prop) (made : Failure → Prop) (action : Action σ α)
    (post : Except Failure α → σ → Prop) (state : σ) : Prop :=
  ∀ ⦃s s' : Scene⦄ ⦃tr : Trace⦄ ⦃outcome : Except Failure α⦄ ⦃state' : σ⦄,
    action.Runs .foreign state s tr outcome state' s' → post outcome state' ∧ tr.Tells bare made outcome

/-- The postcondition of an action that goes on where it succeeds. -/
def onward (bare : Call → Prop) (made : Failure → Prop) (next : α → Action σ β)
    (post : Except Failure β → σ → Prop) : Except Failure α → σ → Prop
  | .ok value => (next value).Tells bare made post
  | .error failure => post (.error failure)

variable {post post' : Except Failure α → σ → Prop}

theorem Tells.mono {action : Action σ α} (htells : action.Tells bare made post state)
    (hpost : ∀ outcome state', post outcome state' → post' outcome state') :
    action.Tells bare made post' state := by
  intro s s' tr outcome state' hruns
  exact (htells hruns).imp_left (hpost outcome state')

theorem tells_pure {value : α} (hpost : post (.ok value) state) :
    (pure value : Action σ α).Tells bare made post state := by
  intro s s' tr outcome state' hruns
  obtain ⟨rfl, rfl, rfl, rfl⟩ := Runs.of_pure hruns
  exact ⟨hpost, Trace.smooth_nil⟩

theorem tells_throw {failure : Failure} (hmade : made failure) (hpost : post (.error failure) state) :
    (throw failure : Action σ α).Tells bare made post state := by
  intro s s' tr outcome state' hruns
  obtain ⟨rfl, rfl, rfl, rfl⟩ := Runs.of_throw hruns
  exact ⟨hpost, .of_made hmade⟩

theorem tells_modify {post : Except Failure PUnit → σ → Prop} {f : σ → σ} (hpost : post (.ok ⟨⟩) (f state)) :
    (modify f : Action σ PUnit).Tells bare made post state := by
  intro s s' tr outcome state' hruns
  obtain ⟨rfl, hresult, rfl⟩ := Runs.of_done hruns
  cases hresult
  exact ⟨hpost, Trace.smooth_nil⟩

theorem tells_get_bind {next : σ → Action σ β} {post : Except Failure β → σ → Prop}
    (hnext : (next state).Tells bare made post state) :
    (get >>= next : Action σ β).Tells bare made post state := hnext

theorem tells_modify_bind {f : σ → σ} {next : PUnit → Action σ β} {post : Except Failure β → σ → Prop}
    (hnext : (next ⟨⟩).Tells bare made post (f state)) :
    (modify f >>= next : Action σ β).Tells bare made post state := hnext

theorem tells_bind {first : Action σ α} {next : α → Action σ β} {post : Except Failure β → σ → Prop}
    (hfirst : first.Tells bare made (onward bare made next post) state) :
    (first >>= next).Tells bare made post state := by
  intro s s' tr outcome state' hruns
  obtain ⟨value, state₁, s₁, tr₁, tr₂, rfl, hbegin, hrest⟩ | ⟨failure, rfl, hbegin⟩ := hruns.of_bind
  · obtain ⟨hnext, hsmooth⟩ := hfirst hbegin
    obtain ⟨hpost, htells⟩ := hnext hrest
    refine ⟨hpost, ?_⟩
    cases outcome with
    | ok _ => exact Trace.Smooth.append hsmooth htells
    | error failure => exact Trace.LeadsTo.after htells hsmooth
  · exact hfirst hbegin

theorem tells_note {event : Log.Event} {post : Except Failure Unit → σ → Prop}
    (hpost : post (.ok ()) state) : (note event : Action σ Unit).Tells bare made post state := by
  intro s s' tr outcome state' hruns
  obtain ⟨rfl, rfl, rfl⟩ := Runs.of_note Strikes.onFiles_foreign hruns
  exact ⟨hpost, Trace.smooth_of_ok⟩

/-- A call tells any failure, an error of the file system as it is. -/
theorem tells_ask {c : Call} {post : Except Failure c.Reply → σ → Prop} (hbare : bare c)
    (hpoint : c.faultPoint?.isSome) (hpost : ∀ outcome, post outcome state) :
    (ask c : Action σ c.Reply).Tells bare made post state := by
  intro s s' tr outcome state' hruns
  obtain ⟨rfl, struck, rfl, -⟩ := Runs.of_ask hruns
  refine ⟨hpost outcome, ?_⟩
  cases outcome with
  | ok reply => exact Trace.smooth_of_ok
  | error failure =>
    exact .of_told ⟨hpoint, rfl⟩ (.same failure) fun _ => hbare

theorem tells_onPart {part : σ → τ} {replace : σ → τ → σ} {action : Action τ α}
    (htells : action.Tells bare made (fun outcome t => post outcome (replace state t)) (part state)) :
    (action.onPart part replace).Tells bare made post state := by
  intro s s' tr outcome state' hruns
  obtain ⟨t, rfl, haction⟩ := Runs.of_onPart hruns
  exact htells haction

/-- What clean-up leaves of the failure before it. -/
theorem Cleans.leadsTo {cleanUp : Action σ α} {post : σ → Prop} (hcleans : cleanUp.Cleans post state)
    {outcome : Except Failure α} (hruns : cleanUp.Runs .foreign state s tr outcome state' s')
    {first : Trace} {failure : Failure} (hleads : first.LeadsTo bare made failure) :
    post state' ∧ Trace.LeadsTo bare made (first ++ tr) (match outcome with
      | .ok _ => failure
      | .error worse => worse) := by
  obtain ⟨hpost, ⟨⟨value, rfl⟩, hcleaning⟩ | ⟨worse, before, e, rfl, rfl, hbroken⟩⟩ := hcleans hruns
  · exact ⟨hpost, hleads.cleaned hcleaning⟩
  · refine ⟨hpost, ?_⟩
    rw [← List.append_assoc]
    exact .overruled hbroken trivial (.same worse)

/-- A failure that is cleaned up after is still told. -/
theorem tells_orCleanUp {action : Action σ α} {cleanUp : Action σ Unit}
    (htells : action.Tells bare made (fun outcome state' => match outcome with
      | .ok value => post (.ok value) state'
      | .error _ => cleanUp.Cleans (fun state'' => ∀ failure, post (.error failure) state'') state') state) :
    (action.orCleanUp cleanUp).Tells bare made post state := by
  intro s s' tr outcome state' hruns
  obtain ⟨value, rfl, haction⟩ | ⟨failure, state₁, s₁, tr₁, tr₂, rfl, haction, hclean⟩ :=
    Runs.of_orCleanUp hruns
  · exact htells haction
  · obtain ⟨hcleans, hleads⟩ := htells haction
    obtain ⟨rfl, hclean⟩ | ⟨worse, rfl, hclean⟩ := hclean
    · obtain ⟨hpost, hleads⟩ := hcleans.leadsTo hclean hleads
      exact ⟨hpost failure, hleads⟩
    · obtain ⟨hpost, hleads⟩ := hcleans.leadsTo hclean hleads
      exact ⟨hpost worse, hleads⟩

/-- An action that always ends with clean-up tells its failure, unless the clean-up breaks off. -/
theorem tells_thenAlways {action : Action σ α} {last : Action σ Unit}
    (hlast : ∀ state, last.Tells (fun _ => True) made (fun _ _ => True) state)
    (htells : action.Tells bare made (fun outcome state' =>
      last.Cleans (fun state'' => post outcome state'' ∧ ∀ failure, post (.error failure) state'') state')
      state) :
    (action.thenAlways last).Tells bare made post state := by
  intro s s' tr outcome state' hruns
  obtain ⟨result, state₁, s₁, tr₁, tr₂, rfl, haction, hrest⟩ := Runs.of_thenAlways hruns
  obtain ⟨hcleans, htold⟩ := htells haction
  obtain ⟨rfl, hrest⟩ | ⟨worse, rfl, hrest⟩ := hrest
  · refine ⟨(hcleans hrest).1.1, ?_⟩
    cases outcome with
    | ok value => exact Trace.Smooth.append htold (hlast state₁ hrest).2
    | error failure => exact (hcleans.leadsTo hrest htold).2
  · obtain ⟨hpost, ⟨⟨_, hvalue⟩, -⟩ | ⟨failure, first, e, hfailure, rfl, hbroken⟩⟩ := hcleans hrest
    · cases hvalue
    · cases hfailure
      refine ⟨hpost.2 worse, ?_⟩
      rw [← List.append_assoc]
      exact .overruled hbroken trivial (.same worse)

/-- An error of the file system is cleaned up after and then named by an error of the store. -/
theorem tells_naming {action : Action σ α} {handler : SystemError → Action σ α} (cleanUp : Action σ Unit)
    (description : Text) (hmade : ∀ cause, ¬made (.system cause))
    (hhandler : ∀ cause, handler cause =
      cleanUp >>= fun _ => throw (.credential (.onFile description cause)))
    (htells : action.Tells (¬·.Creates) made (fun outcome state' => match outcome with
      | .ok value => post (.ok value) state'
      | .error failure => post (.error failure) state' ∧
          cleanUp.Cleans (fun state'' => ∀ failure, post (.error failure) state'') state') state) :
    (action.onSystemError handler).Tells bare made post state := by
  intro s s' tr outcome state' hruns
  obtain ⟨value, rfl, haction⟩ | ⟨failure, hforeign, rfl, haction⟩ | hmet := Runs.of_onSystemError hruns
  · exact htells haction
  · obtain ⟨⟨hpost, -⟩, hleads⟩ := htells haction
    exact ⟨hpost, hleads.of_bare hforeign⟩
  · obtain ⟨cause, state₁, s₁, tr₁, tr₂, rfl, haction, hrest⟩ := hmet
    obtain ⟨⟨-, hcleans⟩, hleads⟩ := htells haction
    have hnamed : tr₁.LeadsTo bare made (.credential (.onFile description cause)) :=
      hleads.named (hmade cause) (fun _ h => h) description
    rw [hhandler] at hrest
    obtain ⟨_, state₂, s₂, tr₃, tr₄, rfl, hclean, hthrow⟩ | ⟨worse, rfl, hclean⟩ := hrest.of_bind
    · obtain ⟨rfl, rfl, rfl, rfl⟩ := Runs.of_throw hthrow
      obtain ⟨hpost, hleads⟩ := hcleans.leadsTo hclean hnamed
      rw [List.append_nil]
      exact ⟨hpost _, hleads⟩
    · obtain ⟨hpost, hleads⟩ := hcleans.leadsTo hclean hnamed
      exact ⟨hpost worse, hleads⟩

theorem Runs.of_ask_pure {strikes : Strikes} {c : Call} {f : c.Reply → α} {outcome : Except Failure α}
    (hruns : (ask c >>= fun reply => pure (f reply) : Action σ α).Runs strikes state s tr outcome state' s') :
    state' = state ∧ ∃ answer struck, outcome = answer.map f ∧ tr = [⟨c, answer, struck⟩] ∧
      Scene.Answers strikes s ⟨c, answer, struck⟩ s' := by
  obtain ⟨reply, _, _, tr₁, _, rfl, hask, hpure⟩ | ⟨failure, rfl, hask⟩ := hruns.of_bind
  · obtain ⟨rfl, rfl, rfl, rfl⟩ := Runs.of_pure hpure
    obtain ⟨rfl, struck, rfl, hanswer⟩ := Runs.of_ask hask
    exact ⟨rfl, _, struck, rfl, List.append_nil _, hanswer⟩
  · obtain ⟨rfl, struck, rfl, hanswer⟩ := Runs.of_ask hask
    exact ⟨rfl, _, struck, rfl, rfl, hanswer⟩

/-- One call, some of whose errors have a meaning of their own; the others are named by an error of the
    store. -/
theorem tells_met {c : Call} {f : c.Reply → α} {handler : SystemError → Action σ α} (description : Text)
    (hpoint : c.faultPoint?.isSome)
    (hok : ∀ (s : Scene) reply, (s.perform c).1 = .ok reply → post (.ok (f reply)) state)
    (hfailed : ∀ failure, post (.error failure) state)
    (hhandler : ∀ cause, handler cause = throw (.credential (c.names description cause)) ∨
      c.Tolerates cause ∧ (handler cause).Tells bare made post state) :
    ((ask c >>= fun reply => pure (f reply)).onSystemError handler).Tells bare made post state := by
  intro s s' tr outcome state' hruns
  obtain ⟨value, rfl, hcall⟩ | ⟨failure, hforeign, rfl, hcall⟩ | hmet := Runs.of_onSystemError hruns
  · obtain ⟨rfl, answer, struck, hvalue, rfl, hanswer⟩ := Runs.of_ask_pure hcall
    cases answer with
    | error failure => cases hvalue
    | ok reply =>
      cases hvalue
      refine ⟨?_, Trace.smooth_of_ok⟩
      obtain ⟨-, hperformed, -⟩ | ⟨_, -, hstruck, -⟩ := hanswer.performed_or_struck
      · exact hok s reply hperformed.symm
      · cases hstruck
  · obtain ⟨rfl, answer, struck, hvalue, rfl, -⟩ := Runs.of_ask_pure hcall
    cases answer with
    | ok reply => cases hvalue
    | error failure =>
      cases hvalue
      refine ⟨hfailed failure, .of_told ⟨hpoint, rfl⟩ (.same failure) fun ⟨cause, hcause⟩ => ?_⟩
      exact absurd hcause (hforeign cause)
  · obtain ⟨cause, state₁, s₁, tr₁, tr₂, rfl, hcall, hrest⟩ := hmet
    obtain ⟨rfl, answer, struck, hvalue, rfl, -⟩ := Runs.of_ask_pure hcall
    cases answer with
    | ok reply => cases hvalue
    | error failure =>
      cases hvalue
      obtain hthrow | ⟨htolerates, htells⟩ := hhandler cause
      · rw [hthrow] at hrest
        obtain ⟨rfl, rfl, rfl, rfl⟩ := Runs.of_throw hrest
        exact ⟨hfailed _, .of_told ⟨hpoint, rfl⟩ (.named description cause) fun ⟨_, hcause⟩ => by cases hcause⟩
      · obtain ⟨hpost, htold⟩ := htells hrest
        have hsmooth : Trace.Smooth [⟨c, .error (.system cause), struck⟩] :=
          Trace.smooth_of_tolerates htolerates
        refine ⟨hpost, ?_⟩
        cases outcome with
        | ok value => exact hsmooth.append htold
        | error failure => exact Trace.LeadsTo.after htold hsmooth

/-- A call, some of whose errors have a meaning of their own. -/
theorem tells_ask_met {c : Call} {handler : SystemError → Action σ c.Reply} (description : Text)
    {post : Except Failure c.Reply → σ → Prop} (hpoint : c.faultPoint?.isSome)
    (hok : ∀ (s : Scene) reply, (s.perform c).1 = .ok reply → post (.ok reply) state)
    (hfailed : ∀ failure, post (.error failure) state)
    (hhandler : ∀ cause, handler cause = throw (.credential (c.names description cause)) ∨
      c.Tolerates cause ∧ (handler cause).Tells bare made post state) :
    ((ask c).onSystemError handler).Tells bare made post state := by
  have hmet := tells_met (f := id) description hpoint hok hfailed hhandler
  rwa [show (ask c >>= fun reply => pure (id reply) : Action σ c.Reply) = ask c from bind_pure _] at hmet

/-- A call all of whose errors are named by an error of the store. -/
theorem tells_ask_named {c : Call} {description : Text} {post : Except Failure c.Reply → σ → Prop}
    (hpoint : c.faultPoint?.isSome) (hother : ¬c.Creates) (hpost : ∀ outcome, post outcome state) :
    ((ask c : Action σ c.Reply).onSystemError fun cause =>
      throw (.credential (.onFile description cause))).Tells bare made post state := by
  refine tells_ask_met description hpoint (fun _ _ _ => hpost _) (fun _ => hpost _)
    fun cause => .inl ?_
  rw [Call.names_eq fun hcreates => absurd hcreates hother]

end Action

end CredentialStore
