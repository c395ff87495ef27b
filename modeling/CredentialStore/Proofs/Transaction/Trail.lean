import CredentialStore.Proofs.Run.Planned
import CredentialStore.Proofs.Store.Numbering
import CredentialStore.Proofs.Transaction.Atomic
import CredentialStore.Proofs.Transaction.Stages

namespace CredentialStore

open CredentialStore.Action

namespace Prompt

variable {σ : Type}

theorem silent_answer (source : SecretSource) (prompt : Text) : (answer source prompt : Action σ _).Silent := by
  cases source with
  | script => exact uses_ask (c := .nextAnswer prompt) rfl
  | terminal =>
    refine uses_bind (uses_attempt (uses_ask rfl)) fun outcome => ?_
    split
    · exact uses_pure _
    · exact uses_bind (uses_ask rfl) fun _ => uses_pure _
    · exact uses_bind (uses_ask rfl) fun _ => uses_pure _
    · exact uses_bind (uses_ask rfl) fun _ => uses_pure _
    · exact uses_bind (uses_ask rfl) fun _ => uses_pure _
    · exact uses_throw _

theorem silent_secret (source : SecretSource) (prompt : Text) : (secret source prompt : Action σ _).Silent := by
  refine uses_bind (silent_answer source prompt) fun entered => ?_
  split
  · exact uses_throw _
  · split
    · exact uses_throw _
    · exact uses_pure _

theorem silent_accept (given : Secret) (verdict? : Option Policy.Verdict) :
    (accept given verdict? : Action σ Secret).Silent := by
  unfold accept
  split
  · exact uses_throw _
  · split
    · exact uses_throw _
    · exact uses_pure _

theorem silent_newSecret (source : SecretSource) (identity : Text) :
    (newSecret source identity : Action σ _).Silent := by
  rw [newSecret_eq]
  refine uses_bind (silent_secret source new) fun given => ?_
  refine uses_bind (silent_secret source confirmation) fun again => ?_
  split
  · exact uses_bind (uses_throw _) fun _ => silent_accept given _
  · exact silent_accept given _

end Prompt

namespace Transaction

variable {t : Transaction} {secrets : Secrets} {state state' : Progress} {s s' : Scene} {tr : Trace}

theorem silent_gatherSecrets : t.gatherSecrets.Silent := by
  have hnew : ∀ authenticator, (t.gatherNew authenticator).Silent := by
    intro authenticator
    rw [gatherNew]
    split
    · exact uses_bind (uses_pure _) fun _ => uses_pure _
    · exact uses_bind (uses_map (Prompt.silent_newSecret t.source t.identity)) fun _ => uses_pure _
  rw [gatherSecrets_eq]
  split
  · refine uses_bind (uses_map ?_) hnew
    exact uses_bind (Prompt.silent_secret t.source Prompt.old) fun _ => uses_pure _
  · exact hnew none

/-- The entry of the refusal, if the caller may not do this. -/
def refusals (t : Transaction) : List Log.AuditEvent :=
  match t.admitted with
  | .error (.credential (.permissionDenied _)) => [refusal t.settings t.operation t.identity]
  | _ => []

theorem refusals_of_admitted (hadmitted : t.admitted = .ok ()) : t.refusals = [] := by
  rw [refusals, hadmitted]

/-- What is checked before the secrets are asked for leaves the refusal in the log. -/
theorem audits_admission : t.admission.Audits (· = t.refusals) := by
  rw [refusals]
  obtain ⟨reason, hadmitted, hadmission⟩ | ⟨hadmitted, hadmission⟩ | ⟨hadmitted, hadmission⟩ :=
    t.admission_cases
  · rw [hadmitted, hadmission]
    exact audits_of_silent (uses_throw _) rfl
  · rw [hadmitted, hadmission]
    refine audits_bind_silent (fun strikes state state' s s' tr outcome hruns => ?_) fun _ => uses_throw _
    obtain ⟨-, struck, rfl, -⟩ := Runs.of_ask hruns
    rfl
  · rw [hadmitted, hadmission]
    exact audits_of_silent silent_gatherSecrets rfl

/-- The opening begins a new transaction in the log with the entry that says what is asked for, and adds the
    refusal if there is one. -/
theorem audited_of_opening {outcome : Except Failure Secrets}
    (hruns : t.opening.Runs .foreign state s tr outcome state' s') :
    ∃ rest : Trace, tr = ⟨.beginTransaction, .ok (), false⟩ :: rest ∧
      (∀ e ∈ rest, e.call ≠ .beginTransaction) ∧
      rest.audited = .started t.operation.name t.identity t.realm t.settings.user :: t.refusals := by
  have hbegins : ∀ {begun : Trace} {outcome : Except Failure Unit} {state' : Progress} {s₁ : Scene},
      (ask .beginTransaction : Action Progress Unit).Runs .foreign state s begun outcome state' s₁ →
      outcome = .ok () ∧ begun = [⟨.beginTransaction, .ok (), false⟩] := by
    intro begun outcome state' s₁ hbegin
    obtain ⟨rfl, -, rfl, -⟩ := Runs.of_ask_aside Strikes.onFiles_foreign rfl hbegin
    exact ⟨rfl, rfl⟩
  rw [opening_eq] at hruns
  obtain ⟨_, _, s₁, begun, rest, rfl, hbegin, hrest⟩ | ⟨failure, rfl, hbegin⟩ := hruns.of_bind
  · obtain ⟨-, rfl⟩ := hbegins hbegin
    obtain ⟨_, _, _, first, last, rfl, hnote, hlast⟩ | ⟨_, -, hnote⟩ := (Runs.of_modify_bind hrest).of_bind
    · obtain ⟨-, -, rfl⟩ := Runs.of_note Strikes.onFiles_foreign hnote
      have haudited : Trace.audited last = t.refusals := audits_admission hlast
      refine ⟨⟨.log (.audit _), .ok (), false⟩ :: last, rfl, fun e he hcall => ?_, ?_⟩
      · rcases List.mem_cons.1 he with rfl | he
        · cases hcall
        · have hasks := Runs.calls uses_admission hlast e he
          rw [hcall] at hasks
          exact hasks
      · rw [Trace.audited_cons, haudited]
        rfl
    · cases (Runs.of_note Strikes.onFiles_foreign hnote).1
  · cases (hbegins hbegin).1

/-- What is done to the store leaves the dropped lines in the log, and no other audit event. -/
theorem audits_apply : (t.apply secrets).Audits (t.rewrite.DropsFrom 1) := by
  have hacquire : t.rewrite.acquire.Silent := Rewrite.uses_acquire.mono fun _ => Rewrite.audit?_of_gates
  have hdiscard : t.rewrite.discard.Silent :=
    Rewrite.uses_discard.mono fun _ hgives => Rewrite.audit?_of_gates (.of_givesUp hgives)
  have hcommit : (Commit.commit t.settings.paths : Action Progress Unit).Silent := by
    refine Commit.uses_commit.mono ?_
    rintro c (hsteps | hremoves | ⟨_, rfl⟩)
    · match c, hsteps with
      | .unlinkBackup _, _ | .linkBackup _ _, _ | .copyBackup _ _, _ | .install _ _, _ => rfl
      | .log (.linkUnsupported _ _), _ => rfl
    · match c, hremoves with
      | .unlinkStaging _, _ | .log (.removeFailed _ _), _ => rfl
    · rfl
  have hprepare : (t.prepare secrets).Audits (t.rewrite.DropsFrom 1) := by
    rw [prepare_eq]
    refine audits_bind_silent (audits_onPart Rewrite.audits_merge) fun seen => ?_
    refine uses_finish seen (fun c hwrites => ?_) (fun c hcloses => ?_) rfl
    · cases c <;> first | exact False.elim hwrites | rfl
    · match c, hcloses with
      | .flush _, _ | .sync _, _ | .closeStaging _, _ | .log (.closeFailed _), _ => rfl
  have hnone := Rewrite.dropsFrom_nil (r := t.rewrite) 1
  refine audits_bind (uses_modify _) (fun _ => audits_bind (uses_onPart hacquire) (fun _ => ?_) hnone) hnone
  refine audits_bind (uses_modify _) (fun _ => ?_) hnone
  refine audits_bind_silent (audits_orCleanUp hprepare (uses_onPart hdiscard)) fun record => ?_
  refine uses_bind (uses_onPart (uses_modify _)) fun _ => uses_bind hcommit fun _ => ?_
  exact uses_bind (uses_modify _) fun _ => uses_pure _

/-- A run begins a new transaction in the log. What it leaves there is what is asked for, the refusal if there
    is one, and the lines of the store that it dropped. -/
theorem audited_of_run {outcome : Except Failure (Option Record)}
    (hruns : t.run.Runs .foreign state s tr outcome state' s') :
    ∃ (rest : Trace) (drops : List Log.AuditEvent), tr = ⟨.beginTransaction, .ok (), false⟩ :: rest ∧
      (∀ e ∈ rest, e.call ≠ .beginTransaction) ∧ t.rewrite.DropsFrom 1 drops ∧
      rest.audited = .started t.operation.name t.identity t.realm t.settings.user :: (t.refusals ++ drops) := by
  obtain ⟨_, -, -, -, hrefused⟩ | ⟨_, _, _, first, last, rfl, -, -, hfirst, happly⟩ := of_run hruns
  · obtain ⟨rest, rfl, hothers, haudited⟩ := audited_of_opening hrefused
    exact ⟨rest, [], rfl, hothers, Rewrite.dropsFrom_nil 1, by rw [haudited, List.append_nil]⟩
  · obtain ⟨rest, rfl, hothers, haudited⟩ := audited_of_opening hfirst
    refine ⟨rest ++ last, last.audited, rfl, fun e he => ?_, audits_apply happly, ?_⟩
    · rcases List.mem_append.1 he with he | he
      · exact hothers e he
      · rintro hcall
        have hserves := happly.calls uses_apply e he
        rw [hcall] at hserves
        exact hserves
    · rw [Trace.audited_append, haudited]
      rfl

/-- What a transaction that was given its secrets fails with is no refusal. -/
theorem ne_permissionDenied_of_apply (hgathered : t.Gathered secrets) {error : CredentialError}
    (hruns : (t.apply secrets).Runs .foreign state s tr (.error (.credential error)) state' s') (notice : Text) :
    error ≠ .permissionDenied notice := by
  have hleads := leadsTo_of_apply (fun _ => True) hgathered hruns
  obtain hmakes | ⟨c, description, cause, rfl⟩ := hleads.named_or_made fun e he hfails =>
    hruns.ne_credential_of_fails he hfails error rfl
  · rintro rfl
    cases hmakes
  · unfold Call.names
    split <;> exact fun h => by cases h

/-- The refusal is in the log exactly where it is what the run fails with. -/
theorem refusals_of_run {result : Except Failure (Option Record)} {phase : Phase} {report : Report}
    (hterminal : ∀ error, .failure (.credential error) ∉ s.session.typed)
    (hruns : t.run.Runs .foreign state s tr result state' s') (hreport : t.reportOf phase result = .ok report) :
    t.refusals =
      if report.outcome = .permissionDenied then [refusal t.settings t.operation t.identity] else [] := by
  obtain ⟨failure, rfl, hgranted, -⟩ | ⟨_, _, _, _, _, -, hgranted, hgathered, -, happly⟩ := of_run hruns
  · cases failure with
    | credential error =>
      cases hreport
      obtain hadmitted | ⟨hadmitted, hdeclined | ⟨-, htyped⟩⟩ := declined_of_grantedIn hgranted
      · rw [refusals, hadmitted]
        cases error <;> rfl
      · rw [refusals_of_admitted hadmitted]
        cases hdeclined <;> rfl
      · exact absurd htyped (hterminal error)
    | _ => cases hreport
  · rw [refusals_of_admitted (of_grantedIn_eq_ok hgranted).1, if_neg]
    rcases result with failure | record
    · cases failure with
      | credential error =>
        cases hreport
        have hother := ne_permissionDenied_of_apply hgathered happly
        cases error with
        | permissionDenied notice => exact absurd rfl (hother notice)
        | _ => exact fun h => by cases h
      | _ => cases hreport
    · cases hreport
      exact fun h => by cases h

/-- How the last entry of an execution tells what is reported: that the store was replaced, or the error and
    the phase in which it came. -/
structure Ends (t : Transaction) (report : Report) (replaced : Prop) (last : Log.AuditEvent) : Prop where
  outcome : report.outcome = .committed ↔ replaced
  committed : last = .committed t.operation.name t.identity t.realm ↔ replaced
  aborted : ¬replaced → ∃ error phase, report.error = some error ∧ report.failedIn = some phase ∧
    last = .aborted t.operation.name t.identity t.realm error.code phase.name error.message
  level : last.level = if ∃ error, report.error = some error ∧
    (error.code = text "MISMATCH" ∨ error.code = text "PERMISSION_DENIED") then .warning else .info

/-- Whether the fields of an entry, as far as they are there, name what was asked for and the transaction that
    it is filed under. -/
structure Labels (t : Transaction) (name : Text) (fields : Log.Fields) : Prop where
  transaction : fields.lookup (text "transaction_id") = some (.string name)
  operation : ∀ v, fields.lookup (text "operation") = some v → v = .string t.operation.name
  identity : ∀ v, fields.lookup (text "identity") = some v → v = .string t.identity
  realm : ∀ v, fields.lookup (text "realm") = some v → v = .string t.realm

theorem exists_ends {result : Except Failure (Option Record)} {phase : Phase} {report : Report} {replaced : Prop}
    (hreport : t.reportOf phase result = .ok report) (hreplaced : (∃ record, result = .ok record) ↔ replaced) :
    ∃ last, t.closing phase result = [last] ∧ t.Ends report replaced last := by
  rcases result with failure | record
  · cases failure with
    | credential error =>
      cases hreport
      have hnot : ¬replaced := fun h => by
        obtain ⟨_, hok⟩ := hreplaced.2 h
        cases hok
      refine ⟨_, rfl, ⟨fun h => ?_, fun h => absurd h hnot⟩, ⟨fun h => (by cases h), fun h => absurd h hnot⟩,
        fun _ => ⟨error, phase, rfl, rfl, rfl⟩, ?_⟩
      · cases error <;> cases h
      · simp [Log.AuditEvent.level, aborted]
    | _ => cases hreport
  · cases hreport
    have hdone : replaced := hreplaced.1 ⟨record, rfl⟩
    refine ⟨_, rfl, ⟨fun _ => hdone, fun _ => rfl⟩, ⟨fun _ => hdone, fun _ => rfl⟩, fun h => absurd hdone h, ?_⟩
    simp [Log.AuditEvent.level]

/-- Every event of a trail is labelled. -/
theorem labels_of_mem {report : Report} {replaced : Prop} {refused : List Log.AuditEvent} {numbers : List Nat}
    {last event : Log.AuditEvent} (name : Text) (hends : t.Ends report replaced last)
    (hrefused : ∀ event ∈ refused, event = refusal t.settings t.operation t.identity)
    (hevent : event ∈ .started t.operation.name t.identity t.realm t.settings.user ::
      (refused ++ numbers.map t.rewrite.drop ++ [last])) : t.Labels name (event.fields name) := by
  have hnone : ∀ {v w : Log.Value}, none = some v → v = w := fun h => by cases h
  have hsome : ∀ {v w : Log.Value}, some w = some v → v = w := fun h => (Option.some.inj h).symm
  simp only [List.mem_cons, List.mem_append, List.mem_map, List.not_mem_nil, or_false] at hevent
  obtain rfl | (hrefusal | ⟨number, -, rfl⟩) | rfl := hevent
  · exact ⟨rfl, fun _ => hsome, fun _ => hsome, fun _ => hsome⟩
  · rw [hrefused event hrefusal]
    exact ⟨rfl, fun _ => hsome, fun _ => hsome, fun _ => hnone⟩
  · exact ⟨rfl, fun _ => hnone, fun _ => hnone, fun _ => hnone⟩
  · by_cases hreplaced : replaced
    · rw [hends.committed.2 hreplaced]
      exact ⟨rfl, fun _ => hsome, fun _ => hsome, fun _ => hsome⟩
    · obtain ⟨error, phase, -, -, hlast⟩ := hends.aborted hreplaced
      rw [hlast]
      exact ⟨rfl, fun _ => hsome, fun _ => hsome, fun _ => hsome⟩

/-- The trail that an execution leaves in a log that keeps information. Of the entries that come to it, those
    that are audit events begin with what is asked for; the refusal follows where there is one, then the lines
    that were dropped in their order, and one last event. All are filed under one new transaction. -/
theorem audit_trail (t : Transaction) {level : Log.Level} {report : Report}
    (hlevel : s.world.threshold = some level) (hinfo : level ≤ Log.Level.info)
    (hterminal : ∀ error, .failure (.credential error) ∉ s.session.typed)
    (hruns : t.execute.Runs .foreign state s tr (.ok report) state' s') :
    ∃ (entries : List LogEntry) (numbers : List Nat) (last : Log.AuditEvent),
      s'.world.entries = s.world.entries ++ entries ∧
      entries.filterMap LogEntry.audit? =
        .started t.operation.name t.identity t.realm t.settings.user ::
          ((if report.outcome = .permissionDenied then [refusal t.settings t.operation t.identity] else []) ++
            numbers.map t.rewrite.drop ++ [last]) ∧
      numbers.Pairwise (· < ·) ∧ t.Ends report tr.Installed last ∧
      ∀ entry ∈ entries, entry.transaction = Log.TransactionId.fresh s.world.drawn ∧
        ∀ fields, entry.event.fields? entry.transaction = some fields →
          t.Labels (Log.TransactionId.fresh s.world.drawn) fields := by
  have hsteps := hruns.steps
  obtain ⟨result, middle, s₁, first, hrun, hreport, rfl⟩ := of_execute Strikes.onFiles_foreign hruns
  have hreport := hreport.symm
  obtain ⟨rest, _, rfl, hothers, ⟨numbers, rfl, hascends, -⟩, haudited⟩ := audited_of_run hrun
  have hreplaced : (∃ record, result = .ok record) ↔
      Trace.Installed ((⟨.beginTransaction, .ok (), false⟩ :: rest) ++
        (t.closing middle.phase result).map fun event => ⟨.log (.audit event), .ok (), false⟩) := by
    rw [installed_of_run hrun, Trace.installed_append, or_iff_left]
    simp [Trace.Installed, Event.turn?]
  obtain ⟨last, hclosing, hends⟩ := exists_ends hreport hreplaced
  rw [hclosing] at hends hsteps ⊢
  have hbegins : ∀ e ∈ rest ++ [⟨.log (.audit last), .ok (), false⟩], e.call ≠ .beginTransaction := by
    intro e he
    rcases List.mem_append.1 he with he | he
    · exact hothers e he
    · rw [List.mem_singleton.1 he]
      exact fun h => by cases h
  obtain ⟨entries, hentries, hfiled, haudits⟩ := Scene.Steps.entries_of_begun hsteps hbegins hlevel hinfo
  have htrail : Trace.audited (rest ++ [⟨.log (.audit last), .ok (), false⟩]) =
      .started t.operation.name t.identity t.realm t.settings.user ::
        ((if report.outcome = .permissionDenied then [refusal t.settings t.operation t.identity] else []) ++
          numbers.map t.rewrite.drop ++ [last]) := by
    rw [Trace.audited_append, haudited, refusals_of_run hterminal hrun hreport]
    rfl
  have haudits := haudits.trans htrail
  refine ⟨entries, numbers, last, hentries, haudits, hascends, hends, fun entry hentry => ?_⟩
  refine ⟨hfiled entry hentry, fun fields hfields => ?_⟩
  rw [hfiled entry hentry] at hfields
  cases hevent : entry.event with
  | audit event =>
    rw [hevent] at hfields
    cases hfields
    have hmem : event ∈ entries.filterMap LogEntry.audit? :=
      List.mem_filterMap.2 ⟨entry, hentry, by rw [LogEntry.audit?, hevent]⟩
    rw [haudits] at hmem
    refine labels_of_mem _ hends (fun event hrefused => ?_) hmem
    split at hrefused
    · exact List.mem_singleton.1 hrefused
    · cases hrefused
  | _ =>
    rw [hevent] at hfields
    cases hfields

/-- A removal that finds nothing to remove. -/
def idleRemoval : Transaction := { sampleRemoval with identity := text "bo" }

/-- A store of a record and a line that is none, and a log that keeps information. -/
def loggedScene : Scene := { sampleScene with world.threshold := some Log.Level.info }

/-- The removal commits, and its trail begins and ends with an entry of one new transaction. -/
theorem idleRemoval_trail : ∃ tr report progress s',
    idleRemoval.execute.Runs .foreign {} loggedScene tr (.ok report) progress s' ∧
      ∃ (entries : List LogEntry) (numbers : List Nat), s'.world.entries = entries ∧
        entries.filterMap LogEntry.audit? =
          .started (text "DELETE") (text "bo") (text "sys") (text "root") ::
            (numbers.map idleRemoval.rewrite.drop ++ [.committed (text "DELETE") (text "bo") (text "sys")]) ∧
        numbers.Pairwise (· < ·) ∧ ∀ entry ∈ entries, entry.transaction = Log.TransactionId.fresh 0 := by
  have hruns := loggedScene.runs_trace {} idleRemoval.execute Strikes.foreign.admits_nil
  have hreport : (loggedScene.run {} idleRemoval.execute).1.1.map Report.outcome = .ok .committed := by
    decide +kernel
  generalize loggedScene.trace {} idleRemoval.execute = tr at hruns
  generalize (loggedScene.run {} idleRemoval.execute).1.1 = outcome at hruns hreport
  generalize (loggedScene.run {} idleRemoval.execute).1.2 = progress at hruns
  generalize (loggedScene.run {} idleRemoval.execute).2.faultless = s' at hruns
  have hlevel : loggedScene.faultless.world.threshold = some Log.Level.info := rfl
  have hempty : loggedScene.faultless.world.entries = [] := rfl
  have hdrawn : loggedScene.faultless.world.drawn = 0 := rfl
  have hterminal : ∀ error, .failure (.credential error) ∉ loggedScene.faultless.session.typed :=
    fun _ h => by cases h
  rcases outcome with failure | report
  · cases hreport
  have hcommitted : report.outcome = .committed := Except.ok.inj hreport
  obtain ⟨entries, numbers, last, hentries, haudits, hascends, hends, hfiled⟩ :=
    audit_trail idleRemoval hlevel (by decide) hterminal hruns
  rw [hcommitted, hends.committed.2 (hends.outcome.1 hcommitted)] at haudits
  rw [hempty, List.nil_append] at hentries
  rw [hdrawn] at hfiled
  exact ⟨tr, report, progress, s', hruns, entries, numbers, hentries, haudits, hascends,
    fun entry hentry => (hfiled entry hentry).1⟩

/-- The line that is no record is the second one. -/
example : (loggedScene.run {} idleRemoval.execute).2.world.entries.filterMap LogEntry.audit? =
    [.started (text "DELETE") (text "bo") (text "sys") (text "root"),
      .malformedRecord (text "/srv/passwd.md5") (.integer 2),
      .committed (text "DELETE") (text "bo") (text "sys")] := by
  decide +kernel

end Transaction

end CredentialStore
