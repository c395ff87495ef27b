import CredentialStore.Proofs.Store.Committing
import CredentialStore.Proofs.Transaction.Effect

namespace CredentialStore.Transaction

open FileSystem StorePaths Rewrite

variable {t : Transaction} {strikes : Strikes} {assumes : FileSystem → Prop}
  {update : Option Bytes → Option Bytes} {directory : Location} {before : FileSystem} {file : FileId}
  {tr : Trace} {s : Scene} {state : Progress}

abbrev storeBefore (t : Transaction) (before : FileSystem) : Option Bytes :=
  before.contents? t.settings.paths.primary

theorem safe_rewriting {k : Contract} {α : Type} {step : Action Rewrite.State α}
    {post : Except Failure α → Progress → Trace → Scene → Prop}
    (hsafe : step.Safe k (fun outcome r => post outcome { state with rewrite := r }) state.rewrite tr s) :
    (rewriting step).Safe k post state tr s :=
  Action.safe_onPart hsafe

theorem safe_check {k : Contract} {α : Type} {outcome : Except Failure α}
    {post : Except Failure α → Progress → Trace → Scene → Prop} (hpost : post outcome state tr s) :
    (check outcome).Safe k post state tr s := by
  cases outcome <;> exact hpost

/-- Closes a staging file that was written. -/
def validate (t : Transaction) (record : Option Record) : Action Progress (Option Record) := do
  rewriting t.rewrite.close
  enter .validated
  pure record

/-- Closes a staging file that was written, with a note before of the record that it replaces. -/
def conclude (t : Transaction) (seen : Summary) (record : Option Record) :
    Action Progress (Option Record) := do
  if seen.matched.isSome ∧ t.operation = .add then
    Action.note (.replacedExisting t.identity t.realm)
  t.validate record

theorem safe_conclude (hhonest : strikes.Honest) (honly : strikes.OnlySystem) {octets : Bytes}
    (seen : Summary) (record : Option Record)
    (hholds : Holds t.settings.paths directory before file octets tr s)
    {post : Except Failure (Option Record) → Progress → Trace → Scene → Prop}
    (hok : ∀ rewrite tr' s', Holds t.settings.paths directory before file octets tr' s' →
      tr'.Closed file → post (.ok record) ⟨.validated, rewrite⟩ tr' s')
    (hfailed : ∀ failure rewrite tr' s',
      Underway t.settings.paths directory before file rewrite tr' s' → tr'.Disturbed →
      post (.error failure) ⟨.merged, rewrite⟩ tr' s') :
    (t.conclude seen record).Safe (storeContract strikes assumes t.settings.paths update) post
      ⟨.merged, writing file octets⟩ tr s := by
  have hvalidate : ∀ tr' s', Holds t.settings.paths directory before file octets tr' s' →
      (t.validate record).Safe (storeContract strikes assumes t.settings.paths update) post
        ⟨.merged, writing file octets⟩ tr' s' := by
    intro tr' s' hholds
    refine Action.safe_bind (safe_rewriting (safe_close hhonest honly hholds ?_ ?_))
    · intro rewrite tr' s' hafter hclosed
      exact Action.safe_modify_bind (Action.safe_pure (hok rewrite tr' s' hafter hclosed))
    · intro failure rewrite tr' s' hunderway hdisturbed
      exact hfailed failure rewrite tr' s' hunderway hdisturbed
  unfold conclude
  split
  · exact Action.safe_bind (hholds.safe_note hhonest _ fun tr' s' hafter _ => hvalidate tr' s' hafter)
  · exact hvalidate tr s hholds

/-- The last part of what is left to do once the lines are copied: the new record is written, if there is
    one, and the staging file is closed. -/
def complete (t : Transaction) (seen : Summary) (record : Option Record) :
    Action Progress (Option Record) := do
  match record with
  | none => pure ()
  | some record => rewriting (Rewrite.append record)
  if seen.matched.isSome ∧ t.operation = .add then
    Action.note (.replacedExisting t.identity t.realm)
  rewriting t.rewrite.close
  enter .validated
  pure record

theorem complete_eq (t : Transaction) (seen : Summary) (record : Option Record) :
    t.complete seen record = (do
      match record with
      | none => pure ()
      | some record => rewriting (Rewrite.append record)
      t.conclude seen record) := rfl

/-- What is left to do once the lines are copied: the record that was found is checked, and the new one
    completes the staging file. -/
def finish (t : Transaction) (secrets : Secrets) (seen : Summary) : Action Progress (Option Record) := do
  enter .merged
  check (t.checkMatched secrets seen.matched)
  let record ← check (t.newRecord secrets)
  t.complete seen record

theorem prepare_eq (t : Transaction) (secrets : Secrets) :
    t.prepare secrets = rewriting t.rewrite.merge >>= t.finish secrets := rfl

/-- Where the lines were copied, the staging file is completed, unless there is no new store by the effect
    of the transaction or something keeps it from being written. -/
theorem safe_finish (hhonest : strikes.Honest) (honly : strikes.OnlySystem) (secrets : Secrets)
    {seen : Summary} (hfound : seen.matched = t.found (t.storeBefore before))
    (hholds : Holds t.settings.paths directory before file (t.kept (t.storeBefore before)) tr s)
    {phase : Phase} {post : Except Failure (Option Record) → Progress → Trace → Scene → Prop}
    (hok : ∀ record octets rewrite tr' s',
      t.effect secrets (t.storeBefore before) = .ok (record, octets) →
      Holds t.settings.paths directory before file octets tr' s' → tr'.Closed file →
      post (.ok record) ⟨.validated, rewrite⟩ tr' s')
    (hfailed : ∀ failure rewrite tr' s',
      Underway t.settings.paths directory before file rewrite tr' s' →
      tr'.Disturbed ∨ t.effect secrets (t.storeBefore before) = .error failure →
      post (.error failure) ⟨.merged, rewrite⟩ tr' s') :
    (t.finish secrets seen).Safe (storeContract strikes assumes t.settings.paths update) post
      ⟨phase, writing file (t.kept (t.storeBefore before))⟩ tr s := by
  have hdisturbed : ∀ failure rewrite (tr' : Trace) s',
      Underway t.settings.paths directory before file rewrite tr' s' → tr'.Disturbed →
      post (.error failure) ⟨.merged, rewrite⟩ tr' s' := fun failure rewrite tr' s' hunderway hstruck =>
    hfailed failure rewrite tr' s' hunderway (.inl hstruck)
  refine Action.safe_modify_bind (Action.safe_bind (safe_check ?_))
  cases hcheck : t.checkMatched secrets seen.matched with
  | error failure =>
    refine hfailed failure _ tr s (underway_writing hholds _) (.inr ?_)
    simp only [effect, ← hfound, hcheck, Bind.bind, Except.bind]
  | ok _ =>
    refine Action.safe_bind (safe_check ?_)
    cases hrecord : t.newRecord secrets with
    | error failure =>
      refine hfailed failure _ tr s (underway_writing hholds _) (.inr ?_)
      simp only [effect, ← hfound, hcheck, hrecord]
      rfl
    | ok record =>
      cases record with
      | none =>
        refine safe_conclude hhonest honly seen none hholds ?_ hdisturbed
        refine fun rewrite tr' s' => hok none _ rewrite tr' s' ?_
        simp only [effect, ← hfound, hcheck, hrecord]
        rfl
      | some record =>
        refine Action.safe_bind (safe_rewriting (safe_append hholds record ?_ ?_ ?_))
        · intro line tr' s' hline hafter
          refine safe_conclude hhonest honly seen (some record) hafter ?_ hdisturbed
          refine fun rewrite tr' s' => hok (some record) _ rewrite tr' s' ?_
          rw [effect_of_newRecord (hfound ▸ hcheck) hrecord, hline]
        · intro tr' s' hline hafter
          refine hfailed _ _ tr' s' (underway_writing hafter _) (.inr ?_)
          rw [effect_of_newRecord (hfound ▸ hcheck) hrecord, hline]
        · intro failure written tr' s' hafter hstruck
          exact hdisturbed failure _ tr' s' (underway_writing hafter written) hstruck

/-- The new store is written to the staging file, unless there is none by the effect of the transaction
    or something keeps it from being written. -/
theorem safe_prepare (hhonest : strikes.Honest) (honly : strikes.OnlySystem) (secrets : Secrets)
    (hholds : Holds t.settings.paths directory before file [] tr s)
    {post : Except Failure (Option Record) → Progress → Trace → Scene → Prop}
    (hok : ∀ record octets state' tr' s', t.effect secrets (t.storeBefore before) = .ok (record, octets) →
      Holds t.settings.paths directory before file octets tr' s' →
      post (.ok record) state' tr' s')
    (hfailed : ∀ failure (state' : Progress) tr' s',
      Underway t.settings.paths directory before file state'.rewrite tr' s' →
      Hindered directory before tr' ∨ t.effect secrets (t.storeBefore before) = .error failure →
      post (.error failure) state' tr' s') :
    (t.prepare secrets).Safe (storeContract strikes assumes t.settings.paths update) post
      ⟨.gated, writing file []⟩ tr s := by
  rw [prepare_eq]
  refine Action.safe_bind (safe_rewriting (safe_merge rfl hhonest hholds ?_ ?_))
  · intro seen tr' s' hfound hafter
    refine safe_finish hhonest honly secrets hfound hafter ?_ ?_
    · intro record octets rewrite tr'' s'' heffect hafter _
      exact hok record octets _ tr'' s'' heffect hafter
    · intro failure rewrite tr'' s'' hunderway hreason
      exact hfailed failure ⟨.merged, rewrite⟩ tr'' s'' hunderway (hreason.imp_left .inl)
  · intro failure written tr' s' hafter hhindered
    exact hfailed failure _ tr' s' (underway_writing hafter written) (.inl hhindered)

theorem not_ready_of_obstructed (hlead : t.settings.paths.LeadTo before directory)
    (hobstructed : Obstructed directory before) (other : Location) :
    ¬t.settings.paths.Ready other before := by
  intro hready
  rw [← hlead.unique hready.lead] at hready
  exact hready.clear hobstructed

/-- Applying a transaction to a store installs its effect, or leaves the store given up. -/
theorem safe_apply (hhonest : strikes.Honest) (honly : strikes.OnlySystem)
    (hsound : ∀ fs, assumes fs → fs.Sound) (houtside : tr.standing = .outside) (secrets : Secrets)
    (hupdate : ∀ contents record octets, t.effect secrets contents = .ok (record, octets) →
      update contents = some octets)
    {post : Except Failure (Option Record) → Progress → Trace → Scene → Prop}
    (hok : ∀ record octets before state' (tr' : Trace) s', assumes before →
      t.effect secrets (t.storeBefore before) = .ok (record, octets) → tr'.standing = .installed →
      post (.ok record) state' tr' s')
    (hfailed : ∀ failure state' (tr' : Trace) s', tr'.standing = .outside ∨ tr'.GivenUp →
      (tr'.Disturbed ∨ ∃ before, assumes before ∧
        ((∀ directory, ¬t.settings.paths.Ready directory before) ∨
          t.effect secrets (t.storeBefore before) = .error failure)) →
      post (.error failure) state' tr' s') :
    (t.apply secrets).Safe (storeContract strikes assumes t.settings.paths update) post state tr s := by
  refine Action.safe_modify_bind ?_
  refine Action.safe_bind (safe_rewriting (safe_acquire rfl hhonest honly hsound houtside ?_ ?_ ?_))
  · intro directory before file tr' s' hassumes hlead hfree hholds
    have hwhy : ∀ failure (tr' : Trace), Hindered directory before tr' →
        tr'.Disturbed ∨ ∃ before, assumes before ∧
          ((∀ directory, ¬t.settings.paths.Ready directory before) ∨
            t.effect secrets (t.storeBefore before) = .error failure) := by
      intro failure tr' hhindered
      exact hhindered.imp_right fun hobstructed =>
        ⟨before, hassumes, .inl (not_ready_of_obstructed hlead hobstructed)⟩
    refine Action.safe_modify_bind ?_
    refine Action.safe_bind (Action.safe_orCleanUp (safe_prepare hhonest honly secrets hholds ?_ ?_))
    · intro record octets state' tr' s' heffect hafter
      refine Action.safe_bind (safe_rewriting (Action.safe_modify ?_))
      refine Action.safe_bind (Commit.safe_commit hhonest honly hafter (hupdate _ _ _ heffect) ?_ ?_)
      · intro tr' s' hinstalled
        refine Action.safe_modify_bind (Action.safe_pure ?_)
        exact hok record octets before _ tr' s' hassumes heffect hinstalled
      · intro failure tr' s' hgiven hhindered
        exact hfailed failure _ tr' s' (.inr hgiven) (hwhy failure tr' hhindered)
    · intro failure state' tr' s' hunderway hreason
      refine safe_rewriting (safe_discard rfl hhonest honly hunderway ?_)
      intro state'' tr'' s'' hgiven hbegins
      refine Action.safe_throw (hfailed failure _ tr'' s'' (.inr hgiven) ?_)
      rcases hreason with hhindered | heffect
      · exact hwhy failure tr'' (hhindered.extended hbegins)
      · exact .inr ⟨before, hassumes, .inr heffect⟩
  · intro failure before tr' s' hassumes hstanding hreason
    exact hfailed failure _ tr' s' (.inl hstanding) (hreason.imp_right fun hready =>
      ⟨before, hassumes, .inl hready⟩)
  · intro failure state' tr' s' hgiven hdisturbed
    exact hfailed failure _ tr' s' (.inr hgiven) (.inl hdisturbed)

/-- How a transaction ends in a session. Either it installed its result on a store that it met, or it
    stands outside or gave the store up; then a failure struck, or the store was not ready, or there is
    no result. -/
inductive Ended (t : Transaction) (assumes : FileSystem → Prop) (session : Session) :
    Except Failure (Option Record) → Trace → Prop
  | installed {record : Option Record} {octets : Bytes} {before : FileSystem} {tr : Trace}
      (hassumes : assumes before)
      (hresult : t.resultIn session (t.storeBefore before) = .ok (record, octets))
      (hstanding : tr.standing = .installed) : Ended t assumes session (.ok record) tr
  | failed {failure : Failure} {tr : Trace} (hstanding : tr.standing = .outside ∨ tr.GivenUp)
      (hreason : tr.Disturbed ∨ ∃ before, assumes before ∧
        ((∀ directory, ¬t.settings.paths.Ready directory before) ∨
          t.resultIn session (t.storeBefore before) = .error failure)) :
      Ended t assumes session (.error failure) tr

theorem Ended.append {session : Session} {outcome : Except Failure (Option Record)} {e : Event}
    (hended : t.Ended assumes session outcome tr) (hturn : e.turn? = none) :
    t.Ended assumes session outcome (tr ++ [e]) := by
  have hnext : Trace.standing (tr ++ [e]) = tr.standing := by
    rw [Trace.standing_append_singleton, Standing.next, hturn, Option.getD_none]
  cases hended with
  | installed hassumes hresult hstanding => exact .installed hassumes hresult (hnext.trans hstanding)
  | failed hstanding hreason =>
    refine .failed ?_ (hreason.imp_left fun hdisturbed =>
      hdisturbed.extended (List.prefix_append tr [e]))
    exact hstanding.imp hnext.trans fun hgiven => hgiven.append hturn

/-- What is done before the store is touched: the fields and the permission are checked, and the secrets
    are asked for. -/
def opening (t : Transaction) : Action Progress Secrets := do
  Action.ask .beginTransaction
  enter .start
  Action.note (.audit (.started t.operation.name t.identity t.realm t.settings.user))
  Action.ofExcept (Policy.validateField (text "username") t.identity)
  Action.ofExcept (Policy.validateField (text "group") t.realm)
  checkPermission t.settings t.operation t.identity
  t.gatherSecrets

/-- What is left of the opening once the log says what is asked for. -/
def admission (t : Transaction) : Action Progress Secrets := do
  Action.ofExcept (Policy.validateField (text "username") t.identity)
  Action.ofExcept (Policy.validateField (text "group") t.realm)
  checkPermission t.settings t.operation t.identity
  t.gatherSecrets

theorem opening_eq (t : Transaction) : t.opening = (do
    Action.ask .beginTransaction
    enter .start
    Action.note (.audit (.started t.operation.name t.identity t.realm t.settings.user))
    t.admission) := rfl

theorem run_eq (t : Transaction) : t.run = t.opening >>= t.apply := by
  unfold run opening
  symm
  iterate 6 refine (bind_assoc _ _ _).trans (congrArg _ (funext fun _ => ?_))
  rfl

theorem invalid_of_validateField {name value : Text} {error : CredentialError}
    (hinvalid : Policy.validateField name value = .error error) : ∃ reason, error = .invalid reason := by
  unfold Policy.validateField at hinvalid
  split at hinvalid
  · cases hinvalid
    exact ⟨_, rfl⟩
  · split at hinvalid
    · cases hinvalid
      exact ⟨_, rfl⟩
    · cases hinvalid

/-- A field is not valid, or the caller may not do this, which is noted, or the secrets are gathered. -/
theorem admission_cases (t : Transaction) :
    (∃ reason, t.admitted = .error (.credential (.invalid reason)) ∧
      t.admission = throw (.credential (.invalid reason))) ∨
    (t.admitted = .error (.credential .refused) ∧
      t.admission = (do
        Action.note (.audit (refusal t.settings t.operation t.identity))
        throw (.credential .refused))) ∨
    t.admitted = .ok () ∧ t.admission = t.gatherSecrets := by
  rw [admitted, admission]
  cases hidentity : Policy.validateField (text "username") t.identity with
  | error error =>
    obtain ⟨reason, rfl⟩ := invalid_of_validateField hidentity
    exact .inl ⟨reason, rfl, rfl⟩
  | ok _ =>
    cases hrealm : Policy.validateField (text "group") t.realm with
    | error error =>
      obtain ⟨reason, rfl⟩ := invalid_of_validateField hrealm
      exact .inl ⟨reason, rfl, rfl⟩
    | ok _ =>
      rw [checkPermission]
      cases t.settings.permits t.operation t.identity with
      | false =>
        exact .inr (.inl ⟨rfl, bind_assoc (Action.note _) (fun _ => Action.refuse .refused)
          fun _ => t.gatherSecrets⟩)
      | true => exact .inr (.inr ⟨rfl, rfl⟩)

/-- The opening gives the secrets that the session gives to a transaction that is admitted, and nobody
    holds the store for it. -/
theorem safe_opening (t : Transaction) {paths : StorePaths} (hhonest : strikes.Honest)
    (houtside : tr.standing = .outside)
    {post : Except Failure Secrets → Progress → Trace → Scene → Prop}
    (hpost : ∀ (tr' : Trace) s', tr'.standing = .outside →
      post (t.grantedIn s.session) { state with phase := .start } tr' s') :
    t.opening.Safe (storeContract strikes assumes paths update) post state tr s := by
  rw [opening_eq]
  refine Action.safe_bind (Action.safe_ask_aside hhonest (c := .beginTransaction) trivial rfl ?_)
  intro s₀ hdrift s₁ hsession _
  have hanswer : (s₀.world.answer .beginTransaction).1 = .ok () := rfl
  refine Action.andThen_of_ok hanswer ?_
  have houtside : Trace.standing (tr ++ [⟨.beginTransaction, .ok (), false⟩]) = .outside := by
    rw [Trace.standing_append_singleton, houtside]
    rfl
  have hsession : s₁.session = s.session := hsession.trans hdrift.1
  refine Action.safe_modify_bind ?_
  refine Action.safe_bind (Action.safe_note_outside hhonest _ houtside ?_)
  intro tr₂ s₂ houtside hsame
  have hsession : s₂.session = s.session := hsame.trans hsession
  refine Action.andThen_of_ok rfl ?_
  have hrefused : ∀ {failure : Failure}, t.admitted = .error failure →
      t.grantedIn s.session = .error failure := by
    intro failure hadmitted
    rw [grantedIn, hadmitted]
    rfl
  obtain ⟨reason, hadmitted, hadmission⟩ | ⟨hadmitted, hadmission⟩ | ⟨hadmitted, hadmission⟩ :=
    t.admission_cases
  · rw [hadmission]
    refine Action.safe_throw ?_
    rw [← hrefused hadmitted]
    exact hpost tr₂ s₂ houtside
  · rw [hadmission]
    refine Action.safe_bind (Action.safe_note_outside hhonest _ houtside fun tr₃ s₃ houtside _ => ?_)
    refine Action.safe_throw ?_
    rw [← hrefused hadmitted]
    exact hpost tr₃ s₃ houtside
  · rw [hadmission]
    refine Action.safe_of_asking hhonest t.asks_gatherSecrets houtside
      { files := ⟨[], [], 0⟩ } fun tr₃ s₃ houtside => ?_
    have hgranted : t.grantedIn s.session = t.secretsIn s₂.session := by
      rw [grantedIn, hadmitted, hsession]
      rfl
    rw [t.asks_gatherSecrets.run_eq _ _ {}, ← secretsIn, ← hgranted]
    exact hpost tr₃ s₃ houtside

/-- A transaction runs to an end that its result explains. -/
theorem safe_run (t : Transaction) (hhonest : strikes.Honest) (honly : strikes.OnlySystem)
    (hsound : ∀ fs, assumes fs → fs.Sound) (houtside : tr.standing = .outside)
    (hassumes : assumes s.world.files) :
    t.run.Safe (storeContract strikes assumes t.settings.paths (t.updateIn s.session))
      (fun outcome _ tr' _ => t.Ended assumes s.session outcome tr') state tr s := by
  rw [run_eq]
  refine Action.safe_bind (safe_opening t hhonest houtside fun tr' s' houtside => ?_)
  have hresult := t.resultIn_eq_bind s.session
  cases hgranted : t.grantedIn s.session with
  | error failure =>
    simp only [hgranted] at hresult
    exact .failed (.inl houtside) (.inr ⟨s.world.files, hassumes, .inr (hresult _)⟩)
  | ok secrets =>
    simp only [hgranted] at hresult
    refine Action.andThen_of_ok rfl (safe_apply hhonest honly hsound houtside secrets ?_ ?_ ?_)
    · intro contents record octets heffect
      exact updateIn_of_ok ((hresult contents).trans heffect)
    · intro record octets before state' tr' s' hassumes heffect hinstalled
      exact .installed hassumes ((hresult _).trans heffect) hinstalled
    · intro failure state' tr' s' hstanding hreason
      refine .failed hstanding (hreason.imp_right ?_)
      rintro ⟨before, hassumes, hreason⟩
      exact ⟨before, hassumes, hreason.imp_right (hresult _).trans⟩

/-- What the outcome of a transaction is reported as. -/
inductive Reports (t : Transaction) :
    Except Failure (Option Record) → Except Failure Report → Prop
  | committed (record : Option Record) (phase : Phase) : Reports t (.ok record) (.ok
      { outcome := .committed, operation := t.operation, identity := t.identity, realm := t.realm
        phase, record })
  | aborted (error : CredentialError) (failedIn : Phase) :
      Reports t (.error (.credential error)) (.ok (t.aborted failedIn error))
  | escaped {failure : Failure} (hfailure : ∀ error, failure ≠ .credential error) :
      Reports t (.error failure) (.error failure)

/-- An executed transaction has ended and reports how. -/
theorem safe_execute (t : Transaction) (hhonest : strikes.Honest) (honly : strikes.OnlySystem)
    (hsound : ∀ fs, assumes fs → fs.Sound) (houtside : tr.standing = .outside)
    (hassumes : assumes s.world.files) :
    t.execute.Safe (storeContract strikes assumes t.settings.paths (t.updateIn s.session))
      (fun report _ tr' _ => ∃ outcome, t.Reports outcome report ∧
        t.Ended assumes s.session outcome tr') state tr s := by
  refine Action.safe_bind (Action.safe_attempt ?_)
  refine (safe_run t hhonest honly hsound houtside hassumes).mono ?_
  intro outcome state' tr' s' hended
  cases outcome with
  | ok record =>
    rw [Action.andThen_ok]
    refine Action.safe_bind (Action.safe_note hhonest _ fun s₀ _ s₁ _ _ => ?_)
    refine Action.andThen_of_ok rfl ?_
    refine Action.safe_get_bind ?_
    refine Action.safe_pure ?_
    exact ⟨_, .committed record _, hended.append rfl⟩
  | error failure =>
    cases failure with
    | credential error =>
      rw [Action.andThen_ok]
      refine Action.safe_get_bind ?_
      refine Action.safe_modify_bind ?_
      refine Action.safe_bind (Action.safe_note hhonest _ fun s₀ _ s₁ _ _ => ?_)
      refine Action.andThen_of_ok rfl (Action.safe_pure ?_)
      exact ⟨_, .aborted error _, hended.append rfl⟩
    | _ => exact ⟨_, .escaped (fun error hequal => Failure.noConfusion hequal), hended⟩

end CredentialStore.Transaction
