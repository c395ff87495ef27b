import CredentialStore.Proofs.Run.Action
import CredentialStore.Proofs.Run.Parts
import CredentialStore.Proofs.Store.Holding

namespace CredentialStore

namespace FileSystem

variable {fs : FileSystem} {path source target : Text} {error : CredentialError}

theorem locate_ne_credential : fs.locate path ≠ .error (.credential error) := by
  intro hlocate
  simp only [locate] at hlocate
  repeat' split at hlocate
  all_goals cases hlocate

theorem create_ne_credential {mode : Nat} : fs.create path mode ≠ .error (.credential error) := by
  intro hcreate
  simp only [create, Bind.bind, Except.bind] at hcreate
  repeat' split at hcreate
  all_goals cases hcreate
  exact locate_ne_credential ‹_›

theorem openFile_ne_credential : fs.openFile path ≠ .error (.credential error) := by
  intro hopen
  simp only [openFile, Bind.bind, Except.bind] at hopen
  repeat' split at hopen
  all_goals cases hopen
  exact locate_ne_credential ‹_›

theorem unlink_ne_credential : fs.unlink path ≠ .error (.credential error) := by
  intro hunlink
  simp only [unlink, Bind.bind, Except.bind] at hunlink
  repeat' split at hunlink
  all_goals cases hunlink
  exact locate_ne_credential ‹_›

theorem link_ne_credential : fs.link source target ≠ .error (.credential error) := by
  intro hlink
  simp only [link, Bind.bind, Except.bind] at hlink
  repeat' split at hlink
  all_goals cases hlink
  all_goals exact locate_ne_credential ‹_›

theorem copy_ne_credential : fs.copy source target ≠ .error (.credential error) := by
  intro hcopy
  simp only [copy, Bind.bind, Except.bind] at hcopy
  repeat' split at hcopy
  all_goals cases hcopy
  · rename_i hsame
    cases hsame
  all_goals first | exact openFile_ne_credential ‹_› | exact locate_ne_credential ‹_›

theorem rename_ne_credential : fs.rename source target ≠ .error (.credential error) := by
  intro hrename
  simp only [rename, Bind.bind, Except.bind] at hrename
  repeat' split at hrename
  all_goals cases hrename
  all_goals exact locate_ne_credential ‹_›

end FileSystem

namespace World

variable {w : World} {error : CredentialError}

theorem changing_ne_credential {call : Except Failure FileSystem}
    (hcall : call ≠ .error (.credential error)) : (w.changing call).1 ≠ .error (.credential error) := by
  cases call with
  | ok files => exact fun hanswer => by cases hanswer
  | error failure =>
    intro hanswer
    cases hanswer
    exact hcall rfl

/-- A call on the files fails with no error of the store. -/
theorem answer_ne_credential {c : Call} (hpoint : c.faultPoint?.isSome) :
    (w.answer c).1 ≠ .error (.credential error) := by
  cases c with
  | createStaging path mode =>
    simp only [answer]
    split
    · exact fun hanswer => by cases hanswer
    · rename_i hcreate
      intro hanswer
      cases hanswer
      exact FileSystem.create_ne_credential hcreate
  | openPrimary path =>
    simp only [answer]
    split
    · exact fun hanswer => by cases hanswer
    · rename_i hopen
      intro hanswer
      cases hanswer
      exact FileSystem.openFile_ne_credential hopen
  | unlinkStaging path => exact changing_ne_credential FileSystem.unlink_ne_credential
  | unlinkBackup path => exact changing_ne_credential FileSystem.unlink_ne_credential
  | linkBackup primary backup => exact changing_ne_credential FileSystem.link_ne_credential
  | copyBackup primary backup => exact changing_ne_credential FileSystem.copy_ne_credential
  | install staging primary => exact changing_ne_credential FileSystem.rename_ne_credential
  | _ => first | exact fun hanswer => by cases hanswer | simp [Call.faultPoint?] at hpoint

end World

theorem Scene.Answers.ne_credential {s s' : Scene} {e : Event} {error : CredentialError}
    (hanswer : Scene.Answers .systemErrors s e s') (hpoint : e.call.faultPoint?.isSome) :
    e.answer ≠ .error (.credential error) := by
  cases hanswer with
  | struck hstrikes =>
    obtain ⟨-, cause, rfl, -⟩ := hstrikes
    intro hcredential
    cases hcredential
  | performed c =>
    have hperform : (s.perform c).1 = (s.world.answer c).1 := by
      cases c <;> first | rfl | simp [Call.faultPoint?] at hpoint
    intro hcredential
    exact World.answer_ne_credential hpoint (hperform.symm.trans hcredential)

namespace Trace

/-- Whether a call of one of some kinds failed with an error. -/
def FailedAt (tr : Trace) (points : List FaultPoint) (cause : SystemError) : Prop :=
  ∃ e ∈ tr, (∃ point ∈ points, e.call.faultPoint? = some point) ∧ e.answer = .error (.system cause)

/-- Whether calls of some kinds are behind a failure that is an error of the file system or of the store:
    one of them failed with the error that it is or that it names. -/
def Explains (points : List FaultPoint) (tr : Trace) : Failure → Prop
  | .system cause => tr.FailedAt points cause
  | .credential error => ∃ action cause, error = .onFile action cause ∧ tr.FailedAt points cause
  | _ => True

variable {points : List FaultPoint} {tr tr' : Trace} {cause : SystemError} {failure : Failure}

theorem FailedAt.mono (hfailed : tr.FailedAt points cause) (hsub : tr ⊆ tr') :
    tr'.FailedAt points cause := by
  obtain ⟨e, he, hfailed⟩ := hfailed
  exact ⟨e, hsub he, hfailed⟩

theorem FailedAt.extended (hfailed : tr.FailedAt points cause) (hbegins : tr <+: tr') :
    tr'.FailedAt points cause :=
  hfailed.mono hbegins.subset

theorem Explains.mono (hexplains : tr.Explains points failure) (hsub : tr ⊆ tr') :
    tr'.Explains points failure := by
  cases failure with
  | system cause => exact FailedAt.mono hexplains hsub
  | credential error =>
    obtain ⟨action, cause, herror, hcause⟩ := hexplains
    exact ⟨action, cause, herror, hcause.mono hsub⟩
  | _ => trivial

theorem Explains.extended (hexplains : tr.Explains points failure) (hbegins : tr <+: tr') :
    tr'.Explains points failure :=
  hexplains.mono hbegins.subset

end Trace

/-- The contract that asks for nothing: any step is allowed, and others may do anything. -/
def Contract.unbound : Contract where
  strikes := .systemErrors
  assumes _ := True
  allows _ _ _ _ := True

/-- A run of a program that keeps to the contract that asks for nothing ends in its postcondition. -/
theorem Program.Safe.of_unbound {α : Type} {post : α → Trace → Scene → Prop} {p : Program α} {tr : Trace}
    {s s' : Scene} (hsafe : p.Safe Contract.unbound post tr s) {rest : Trace} {value : α}
    (hruns : p.Runs .systemErrors s rest value s') : post value (tr ++ rest) s' := by
  induction hruns generalizing tr with
  | done s value =>
    rw [List.append_nil]
    exact hsafe
  | @call s s₁ s₂ e next rest value hanswer hrest ih =>
    have hdrift : Contract.unbound.Drifts tr.standing s s := by
      refine ⟨rfl, ?_⟩
      cases tr.standing <;> trivial
    have hpost := ih (hsafe s hdrift e.answer e.struck s₁ hanswer).2
    rwa [List.append_assoc] at hpost

namespace Action

variable {σ τ α β : Type} {points : List FaultPoint} {tr : Trace}

/-- Whether the failures of an action, after the calls of a trace, are explained by calls of some kinds. -/
def Explained (points : List FaultPoint) (action : Action σ α) (tr : Trace) : Prop :=
  ∀ state s, action.Safe Contract.unbound
    (fun outcome _ tr' _ => ∀ failure, outcome = .error failure → tr'.Explains points failure) state tr s

theorem explained_pure (value : α) : (pure value : Action σ α).Explained points tr :=
  fun _ _ => safe_pure fun _ hfailure => by cases hfailure

theorem explained_throw {failure : Failure} (hexplains : tr.Explains points failure) :
    (throw failure : Action σ α).Explained points tr := by
  refine fun _ _ => safe_throw fun failure hfailure => ?_
  cases hfailure
  exact hexplains

theorem explained_ask {c : Call} {point : FaultPoint} (hpoint : c.faultPoint? = some point)
    (hmem : point ∈ points) : (ask c : Action σ c.Reply).Explained points tr := by
  refine fun _ _ => safe_ask fun s₀ _ answer struck s' hanswer => ⟨trivial, fun failure hfailure => ?_⟩
  cases failure with
  | system cause =>
    exact ⟨⟨c, answer, struck⟩, by simp, ⟨point, hmem, hpoint⟩, hfailure⟩
  | credential error =>
    have hsome : c.faultPoint?.isSome := by rw [hpoint]; rfl
    exact absurd hfailure (hanswer.ne_credential hsome)
  | _ => trivial

theorem explained_note (event : Log.Event) : (note event : Action σ Unit).Explained points tr := by
  refine fun _ _ => safe_ask fun s₀ _ answer struck s' hanswer => ⟨trivial, fun failure hfailure => ?_⟩
  cases hanswer with
  | struck hstrikes => exact absurd hstrikes (Strikes.onFiles_systemErrors.not_strikes rfl)
  | performed => cases hfailure

theorem Explained.bind {first : Action σ α} {next : α → Action σ β}
    (hfirst : first.Explained points tr)
    (hnext : ∀ value tr', tr <+: tr' → (next value).Explained points tr') :
    (first >>= next).Explained points tr := by
  refine fun state s => safe_bind ((hfirst state s).extending.mono ?_)
  rintro (failure | value) state' tr' s' ⟨hexplains, hbegins⟩
  · intro failure' hfailure
    cases hfailure
    exact hexplains failure rfl
  · exact hnext value tr' hbegins state' s'

theorem explained_get_bind {next : σ → Action σ β} (hnext : ∀ state, (next state).Explained points tr) :
    (get >>= next : Action σ β).Explained points tr :=
  fun state s => safe_get_bind (hnext state state s)

theorem explained_modify (f : σ → σ) : (modify f : Action σ PUnit).Explained points tr :=
  fun _ _ => safe_modify fun _ hfailure => by cases hfailure

theorem Explained.attempt_bind {action : Action σ α} {next : Except Failure α → Action σ β}
    (haction : action.Explained points tr)
    (hok : ∀ value tr', tr <+: tr' → (next (.ok value)).Explained points tr')
    (hfailed : ∀ failure (tr' : Trace), tr <+: tr' → tr'.Explains points failure →
      (next (.error failure)).Explained points tr') : (attempt action >>= next).Explained points tr := by
  refine fun state s => safe_bind (safe_attempt ((haction state s).extending.mono ?_))
  rintro (failure | value) state' tr' s' ⟨hexplains, hbegins⟩
  · exact hfailed failure tr' hbegins (hexplains failure rfl) state' s'
  · exact hok value tr' hbegins state' s'

theorem Explained.onSystemError {action : Action σ α} {handler : SystemError → Action σ α}
    (haction : action.Explained points tr)
    (hhandler : ∀ cause (tr' : Trace), tr <+: tr' → tr'.FailedAt points cause →
      (handler cause).Explained points tr') : (action.onSystemError handler).Explained points tr := by
  refine haction.attempt_bind (fun value _ _ => explained_pure value) fun failure tr' hbegins hexplains => ?_
  cases failure with
  | system cause => exact hhandler cause tr' hbegins hexplains
  | _ => exact explained_throw hexplains

/-- A call whose error is named by an error of the store. -/
theorem explained_orThrow {c : Call} {point : FaultPoint} {description : Text}
    (hpoint : c.faultPoint? = some point) (hmem : point ∈ points) :
    ((ask c : Action σ c.Reply).onSystemError fun cause =>
      throw (.credential (.onFile description cause))).Explained points tr :=
  (explained_ask hpoint hmem).onSystemError fun cause _ _ hfailed =>
    explained_throw ⟨description, cause, rfl, hfailed⟩

/-- A call whose error is met explains nothing itself. -/
theorem explained_handled {c : Call} {handler : SystemError → Action σ c.Reply}
    (hpoint : c.faultPoint?.isSome) (hhandler : ∀ cause tr', (handler cause).Explained points tr') :
    ((ask c).onSystemError handler).Explained points tr := by
  refine fun state _ => safe_onSystemError (safe_ask fun s₀ _ answer struck s' hanswer => ⟨trivial, ?_⟩)
  rcases answer with failure | value
  · cases failure with
    | system cause => exact hhandler cause _ state s'
    | credential error => exact absurd rfl (hanswer.ne_credential hpoint)
    | _ =>
      intro failure hfailure
      cases hfailure
      trivial
  · intro failure hfailure
    cases hfailure

theorem Explained.orCleanUp {action : Action σ α} {cleanUp : Action σ Unit}
    (haction : action.Explained points tr)
    (hclean : ∀ tr', tr <+: tr' → cleanUp.Explained points tr') :
    (action.orCleanUp cleanUp).Explained points tr := by
  refine haction.attempt_bind (fun value _ _ => explained_pure value) fun failure tr' hbegins hexplains => ?_
  exact (hclean tr' hbegins).bind fun _ tr'' hbegins' => explained_throw (hexplains.extended hbegins')

theorem Explained.thenAlways {action : Action σ α} {last : Action σ Unit}
    (haction : action.Explained points tr)
    (hlast : ∀ tr', tr <+: tr' → last.Explained points tr') :
    (action.thenAlways last).Explained points tr := by
  refine haction.attempt_bind (fun value tr' hbegins => ?_) fun failure tr' hbegins hexplains => ?_
  · exact (hlast tr' hbegins).bind fun _ _ _ => explained_pure value
  · exact (hlast tr' hbegins).bind fun _ tr'' hbegins' => explained_throw (hexplains.extended hbegins')

theorem Explained.onPart {part : σ → τ} {replace : σ → τ → σ} {action : Action τ α}
    (haction : action.Explained points tr) : (action.onPart part replace).Explained points tr :=
  fun state s => safe_onPart (haction (part state) s)

/-- The failure of a run is explained by its calls. -/
theorem Explained.of_runs {action : Action σ α} (hexplained : action.Explained points [])
    {state state' : σ} {s s' : Scene} {failure : Failure}
    (hruns : action.Runs .systemErrors state s tr (.error failure) state' s') :
    tr.Explains points failure :=
  Program.Safe.of_unbound (hexplained state s) hruns failure rfl

end Action

end CredentialStore
