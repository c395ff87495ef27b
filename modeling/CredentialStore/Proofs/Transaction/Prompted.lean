import CredentialStore.Proofs.Secret.Prompting
import CredentialStore.Proofs.Transaction.Authorized
import CredentialStore.Proofs.Transaction.Stages

namespace CredentialStore

open CredentialStore.Action

namespace Transaction

variable {t : Transaction} {session : Session} {state state' : Progress} {s s' : Scene} {tr : Trace}

/-- The prompts of a transaction: for the old secret of an unprivileged caller who changes it, and twice for
    a new one unless the record is deleted. -/
def prompts (t : Transaction) : List Text :=
  (if t.operation = .change ∧ t.settings.privileged = false then [Prompt.old] else []) ++
    if t.operation = .delete then [] else [Prompt.new, Prompt.confirmation]

/-- Whether the secrets that were given suffice: unless the record is deleted, the last two are the same and
    the rules accept it. -/
def Suffices (t : Transaction) (secrets : List Secret) : Prop :=
  t.operation ≠ .delete → ∃ new, [new, new] <:+ secrets ∧
    Policy.check? (.bytes new.octets) t.identity = some .accepted

/-- Whether a transaction gets all that it needs before it touches the store. -/
def Supplied (t : Transaction) (answers : List (Option Text)) : Prop :=
  t.admitted = .ok () ∧ ∃ secrets, Prompt.given t.prompts answers = .ok secrets ∧ t.Suffices secrets

theorem gathers_gatherNew (authenticator : Option Authenticator) :
    (t.gatherNew authenticator).Gathers t.source
      (if t.operation = .delete then [] else [Prompt.new, Prompt.confirmation])
      fun secrets outcome => (∃ value, outcome = .ok value) ↔ t.Suffices secrets := by
  rw [gatherNew]
  by_cases hdelete : t.operation = .delete
  · rw [if_pos hdelete, if_pos hdelete]
    exact gathers_pure ⟨fun _ hwriting => absurd hdelete hwriting, fun _ => ⟨_, rfl⟩⟩
  · rw [if_neg hdelete, if_neg hdelete, bind_pure_comp, ← comp_map]
    refine gathers_map ((Prompt.gathers_newSecret t.identity).mono fun secrets outcome hlength hgiven => ?_)
    constructor
    · rintro ⟨value, hvalue⟩ -
      cases outcome with
      | error failure => cases hvalue
      | ok secret =>
        obtain ⟨rfl, haccepted⟩ := (hgiven secret).1 rfl
        exact ⟨secret, List.suffix_rfl, haccepted⟩
    · intro hsuffices
      obtain ⟨new, hlast, haccepted⟩ := hsuffices hdelete
      rw [(hgiven new).2 ⟨(hlast.eq_of_length hlength.symm).symm, haccepted⟩]
      exact ⟨_, rfl⟩

/-- Gathering the secrets shows the prompts of the transaction, and succeeds where the secrets suffice. -/
theorem gathers_gatherSecrets : t.gatherSecrets.Gathers t.source t.prompts
    fun secrets outcome => (∃ value, outcome = .ok value) ↔ t.Suffices secrets := by
  rw [gatherSecrets_eq, prompts]
  by_cases hold : t.operation = .change ∧ t.settings.privileged = false
  · have hwriting : t.operation ≠ .delete := by simp [hold.1]
    have hacquire : some <$> Authenticator.acquire { realm := t.settings.digestRealm } t.source >>= t.gatherNew =
        (Prompt.secret t.source Prompt.old : Action Progress Secret) >>= fun old =>
          t.gatherNew (some { realm := t.settings.digestRealm, old := some old }) := by
      simp only [Authenticator.acquire, ← bind_pure_comp, bind_assoc, pure_bind]
    rw [if_pos hold, if_pos hold, hacquire, List.singleton_append]
    refine gathers_secret_bind fun old => (gathers_gatherNew _).mono fun rest outcome hlength hgiven => ?_
    rw [hgiven]
    refine forall_congr' fun _ => exists_congr fun new => and_congr_left fun _ => ?_
    -- The old secret is not among the last two.
    rw [List.suffix_cons_iff, or_iff_right]
    intro htwice
    have hsame := congrArg List.length htwice
    rw [if_neg hwriting] at hlength
    simp [hlength] at hsame
  · rw [if_neg hold, if_neg hold, List.nil_append]
    exact gathers_gatherNew none

/-- The opening checks what was asked for, and then the secrets are gathered. -/
theorem run_opening (s : Scene) (state : Progress) : s.run state t.opening =
    Scene.run ⟨s.world.beginTransaction.record
      (.audit (.started t.operation.name t.identity t.realm t.settings.user)), s.session⟩
      { state with phase := .start } t.admission := rfl

/-- The prompts of a run of the opening are those that the admission shows. -/
theorem prompts_of_run_admission {outcome : Except Failure Secrets}
    (hruns : t.opening.Runs .foreign state s tr outcome state' s') :
    (Scene.run ⟨s.world.beginTransaction.record
      (.audit (.started t.operation.name t.identity t.realm t.settings.user)), s.session⟩
      { state with phase := .start } t.admission).2.session.prompts = s.session.prompts ++ tr.prompts := by
  have huses : t.opening.Uses (·.faultPoint? = none) := uses_opening rfl fun _ => Call.Asks.faultPoint?_eq
  have hlast : (s.run state t.opening).2 = s' := congrArg Prod.snd (Program.Runs.eq_run (huses state) hruns)
  rw [← run_opening, hlast]
  exact Program.Runs.prompts hruns

/-- A transaction that is not admitted shows no prompt, whoever would answer. -/
theorem prompts_of_not_admitted {outcome : Except Failure Secrets} (hnot : t.admitted ≠ .ok ())
    (hruns : t.opening.Runs .foreign state s tr outcome state' s') : tr.prompts = [] := by
  have hrecorded := prompts_of_run_admission hruns
  obtain ⟨reason, -, hadmission⟩ | ⟨-, hadmission⟩ | ⟨hadmitted, -⟩ := t.admission_cases
  · rw [hadmission] at hrecorded
    exact List.append_right_eq_self.1 hrecorded.symm
  · rw [hadmission] at hrecorded
    exact List.append_right_eq_self.1 hrecorded.symm
  · exact absurd hadmitted hnot

/-- A run of the opening shows the prompts of a transaction that is admitted, as far as the answers reach. -/
theorem prompts_of_opening (hplain : s.session.AnswersPlainly t.source) {outcome : Except Failure Secrets}
    (hruns : t.opening.Runs .foreign state s tr outcome state' s') :
    (t.admitted = .ok () →
      tr.prompts = (Prompt.asked t.prompts (s.session.answers t.source)).map t.source.shown) ∧
    (t.admitted ≠ .ok () → tr.prompts = []) := by
  refine ⟨fun hok => ?_, fun hnot => prompts_of_not_admitted hnot hruns⟩
  have hrecorded := prompts_of_run_admission hruns
  obtain ⟨reason, hadmitted, -⟩ | ⟨hadmitted, -⟩ | ⟨-, hadmission⟩ := t.admission_cases
  · cases hadmitted.symm.trans hok
  · cases hadmitted.symm.trans hok
  · rw [hadmission] at hrecorded
    obtain ⟨hshown, -⟩ := gathers_gatherSecrets (t := t)
      ⟨s.world.beginTransaction.record _, s.session⟩ { state with phase := .start } hplain
    exact List.append_cancel_left (hrecorded.symm.trans hshown)

/-- What a session does not give is not granted. -/
theorem grantedIn_of_given {failure : Failure} (hplain : session.AnswersPlainly t.source)
    (hadmitted : t.admitted = .ok ()) (hgiven : Prompt.given t.prompts (session.answers t.source) = .error failure) :
    t.grantedIn session = .error failure := by
  obtain ⟨-, hgathered⟩ := gathers_gatherSecrets (t := t) ⟨{ files := ⟨[], [], 0⟩ }, session⟩ {} hplain
  rw [hgiven] at hgathered
  rw [grantedIn, hadmitted]
  exact hgathered

/-- A transaction is granted its secrets exactly where it is supplied with what it needs. -/
theorem supplied_iff (hplain : session.AnswersPlainly t.source) :
    t.Supplied (session.answers t.source) ↔ ∃ secrets, t.grantedIn session = .ok secrets := by
  obtain ⟨-, hgathered⟩ := gathers_gatherSecrets (t := t) ⟨{ files := ⟨[], [], 0⟩ }, session⟩ {} hplain
  constructor
  · rintro ⟨hadmitted, given, hgiven, hsuffices⟩
    rw [hgiven] at hgathered
    rw [grantedIn, hadmitted]
    exact hgathered.2 hsuffices
  · rintro ⟨secrets, hgranted⟩
    obtain ⟨hadmitted, hsecrets⟩ := of_grantedIn_eq_ok hgranted
    cases hgiven : Prompt.given t.prompts (session.answers t.source) with
    | error failure => cases hgranted.symm.trans (grantedIn_of_given hplain hadmitted hgiven)
    | ok given =>
      rw [hgiven] at hgathered
      exact ⟨hadmitted, given, hgiven, hgathered.1 ⟨secrets, hsecrets⟩⟩

/-- Applying a transaction begins with a call on the files. -/
theorem exists_point_of_apply {secrets : Secrets} {outcome : Except Failure (Option Record)}
    (hruns : (t.apply secrets).Runs .foreign state s tr outcome state' s') :
    ∃ e ∈ tr, e.call.faultPoint?.isSome := by
  obtain ⟨next, hcall⟩ : ∃ next, t.apply secrets state =
    .call (.createStaging t.settings.paths.staging t.settings.stagingMode) next := ⟨_, rfl⟩
  rw [Runs, hcall] at hruns
  obtain ⟨answer, struck, rest, rfl⟩ := Program.Runs.of_call hruns
  exact ⟨_, List.mem_cons_self, rfl⟩

/-- An execution opens the transaction without a call on the files. It goes on to them, and shows no more
    prompts, or it was refused and notes that. -/
theorem opening_of_execute {outcome : Except Failure Report}
    (hruns : t.execute.Runs .foreign state s tr outcome state' s') :
    ∃ result middle s₁ first rest, tr = first ++ rest ∧
      t.opening.Runs .foreign state s first result middle s₁ ∧ (∀ e ∈ rest, e.call.prompt? = none) ∧
      ((∃ secrets, result = .ok secrets ∧ ∃ e ∈ rest, e.call.faultPoint?.isSome) ∨
        ∃ failure, result = .error failure ∧ outcome = t.reportOf .start (.error failure) ∧
          ∀ e ∈ rest, ∃ event, e.call = .log event) := by
  obtain ⟨result, middle, s₁, done, hrun, rfl, rfl⟩ := of_execute Strikes.onFiles_foreign hruns
  have hclosing : ∀ e ∈ (t.closing middle.phase result).map (fun event =>
      (⟨.log (.audit event), .ok (), false⟩ : Event)), ∃ event, e.call = .log event := by
    intro e he
    obtain ⟨event, -, rfl⟩ := List.mem_map.1 he
    exact ⟨_, rfl⟩
  have hunprompted : ∀ {rest : Trace}, (∀ e ∈ rest, ∃ event, e.call = .log event) →
      ∀ e ∈ rest, e.call.prompt? = none := by
    intro rest hnotes e he
    obtain ⟨event, hcall⟩ := hnotes e he
    rw [hcall]
    rfl
  obtain ⟨failure, rfl, -, hphase, hopening⟩ | ⟨secrets, _, _, first, rest, rfl, -, -, hopening, happly⟩ :=
    of_run hrun
  · exact ⟨_, middle, s₁, done, _, rfl, hopening, hunprompted hclosing,
      .inr ⟨failure, rfl, by rw [hphase], hclosing⟩⟩
  · obtain ⟨point, hpoint, hsome⟩ := exists_point_of_apply happly
    refine ⟨_, _, _, first, _, List.append_assoc _ _ _, hopening, fun e he => ?_,
      .inl ⟨secrets, rfl, point, List.mem_append_left _ hpoint, hsome⟩⟩
    obtain he | he := List.mem_append.1 he
    · have hserves := Runs.calls uses_apply happly e he
      cases hcall : e.call <;> rw [hcall] at hserves <;> first | rfl | exact False.elim hserves
    · exact hunprompted hclosing e he

/-- How an execution asks for its secrets, by what the session answers, and what becomes of it where they are
    not given. -/
structure AsksFirst (t : Transaction) (s : Scene) (tr : Trace) (outcome : Except Failure Report) (s' : Scene) :
    Prop where
  /-- No prompt comes after a call on the files. -/
  first : tr.PromptsFirst
  /-- The session has shown the prompts of the calls. -/
  shown : s'.session.prompts = s.session.prompts ++ tr.prompts
  /-- The prompts come in turn, up to the first answer that is missing or has no bytes. -/
  admitted : t.admitted = .ok () →
    tr.prompts = (Prompt.asked t.prompts (s.session.answers t.source)).map t.source.shown
  /-- There is no prompt where a field is not valid or the caller may not do this. -/
  refused : t.admitted ≠ .ok () → tr.prompts = []
  /-- A new secret is given where both answers are there, have the same bytes and keep the rules. -/
  renewed : ∀ (state : Progress) (secret : Secret),
    (s.run state (Prompt.newSecret t.source t.identity)).1.1 = .ok secret ↔
      Prompt.given [Prompt.new, Prompt.confirmation] (s.session.answers t.source) = .ok [secret, secret] ∧
        Policy.check? (.bytes secret.octets) t.identity = some .accepted
  /-- The first answer that is not given is what is reported. -/
  withheld : t.admitted = .ok () → ∀ failure,
    Prompt.given t.prompts (s.session.answers t.source) = .error failure →
      outcome = t.reportOf .start (.error failure)
  /-- There are calls on the files exactly where the transaction got all that it needs. -/
  reached : (∃ e ∈ tr, e.call.faultPoint?.isSome) ↔ t.Supplied (s.session.answers t.source)
  /-- Without that, it leaves the files, and it ends as on any other files. -/
  unsupplied : ¬t.Supplied (s.session.answers t.source) → s'.world.files = s.world.files ∧
    ∀ ⦃other other' : Scene⦄ ⦃state state' : Progress⦄ ⦃tr' : Trace⦄ ⦃outcome' : Except Failure Report⦄,
      other.session = s.session → t.execute.Runs .foreign state other tr' outcome' state' other' →
        outcome' = outcome

/-- A transaction that is not granted what it needs ends by what its session answers alone. -/
theorem of_execute_refused {outcome : Except Failure Report} {failure : Failure}
    (hgranted : t.grantedIn s.session = .error failure)
    (hruns : t.execute.Runs .foreign state s tr outcome state' s') :
    outcome = t.reportOf .start (.error failure) ∧ (∀ e ∈ tr, e.call.faultPoint? = none) ∧
      s'.world.files = s.world.files := by
  obtain ⟨result, middle, s₁, first, rest, rfl, hopening, -, hends⟩ := opening_of_execute hruns
  obtain ⟨rfl, -, hpoints⟩ := granted_of_opening hopening
  obtain ⟨_, hok, -⟩ | ⟨_, hfailed, rfl, hnotes⟩ := hends
  · cases hgranted.symm.trans hok
  · cases hgranted.symm.trans hfailed
    have huses : t.opening.Uses fun c => c.LeavesFiles ∨ c.Asks :=
      uses_opening (.inl trivial) fun _ hasks => .inr hasks
    refine ⟨rfl, fun e he => ?_, Program.Runs.files_eq hruns fun e he => ?_⟩
    · obtain he | he := List.mem_append.1 he
      · exact hpoints e he
      · obtain ⟨event, hcall⟩ := hnotes e he
        rw [hcall]
        rfl
    · obtain he | he := List.mem_append.1 he
      · exact hopening.calls huses e he
      · obtain ⟨event, hcall⟩ := hnotes e he
        rw [hcall]
        exact .inl trivial

/-- A transaction asks for all secrets before it touches the store. -/
theorem asksFirst_of_execute (t : Transaction) {state state' : Progress} {s s' : Scene} {tr : Trace}
    {outcome : Except Failure Report} (hplain : s.session.AnswersPlainly t.source)
    (hruns : t.execute.Runs .foreign state s tr outcome state' s') : t.AsksFirst s tr outcome s' := by
  obtain ⟨result, middle, s₁, first, rest, rfl, hopening, hrest, hends⟩ := opening_of_execute hruns
  obtain ⟨rfl, -, hpoints⟩ := granted_of_opening hopening
  obtain ⟨hadmitted, hnone⟩ := prompts_of_opening hplain hopening
  have hprompts : Trace.prompts (first ++ rest) = first.prompts := by
    rw [Trace.prompts_append, Trace.prompts_eq_nil hrest, List.append_nil]
  refine ⟨Trace.promptsFirst_append hpoints hrest, Program.Runs.prompts hruns, ?_, ?_, ?_, ?_, ?_, ?_⟩
  · rwa [hprompts]
  · rwa [hprompts]
  · exact fun state secret => Prompt.run_newSecret_iff hplain secret
  · exact fun hok failure hgiven => (of_execute_refused (grantedIn_of_given hplain hok hgiven) hruns).1
  · rw [supplied_iff hplain]
    constructor
    · rintro ⟨e, he, hpoint⟩
      cases hresult : t.grantedIn s.session with
      | ok secrets => exact ⟨secrets, rfl⟩
      | error failure =>
        rw [(of_execute_refused hresult hruns).2.1 e he] at hpoint
        cases hpoint
    · rintro ⟨secrets, hgranted⟩
      obtain ⟨_, -, e, he, hpoint⟩ | ⟨_, hfailed, -⟩ := hends
      · exact ⟨e, List.mem_append_right _ he, hpoint⟩
      · cases hgranted.symm.trans hfailed
  · intro hunsupplied
    cases hresult : t.grantedIn s.session with
    | ok secrets => exact absurd ((supplied_iff hplain).2 ⟨secrets, hresult⟩) hunsupplied
    | error failure =>
      obtain ⟨rfl, -, hfiles⟩ := of_execute_refused hresult hruns
      refine ⟨hfiles, fun other other' state state' tr' outcome' hsession hother => ?_⟩
      rw [← hsession] at hresult
      exact (of_execute_refused hresult hother).1

/-- The answers of a caller who gives the old secret, and no new one. -/
def unansweredScene : Scene := { changeScene with session := { script := [some (text "secret1"), none] } }

/-- The caller is asked for both and not for a confirmation. -/
theorem sampleChange_asksFirst : ∃ tr outcome state' s',
    sampleChange.execute.Runs .foreign {} unansweredScene tr outcome state' s' ∧
      tr.prompts = [Prompt.old, Prompt.new] ∧
      outcome = .ok (sampleChange.aborted .start (.noSecret Prompt.new)) ∧
      sampleChange.AsksFirst unansweredScene tr outcome s' := by
  obtain ⟨tr, hruns, -⟩ := unansweredScene.runs_of_run .foreign {} sampleChange.execute rfl
  generalize unansweredScene.run {} sampleChange.execute = result at hruns
  obtain ⟨⟨outcome, state'⟩, s'⟩ := result
  have hasks := asksFirst_of_execute sampleChange trivial hruns
  have hgiven : Prompt.given sampleChange.prompts (unansweredScene.session.answers .script) =
      .error (.credential (.noSecret Prompt.new)) := by decide
  exact ⟨tr, outcome, state', s', hruns, hasks.admitted (by decide),
    hasks.withheld (by decide) _ hgiven, hasks⟩

end Transaction

end CredentialStore
