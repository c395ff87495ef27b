import CredentialStore.Proofs.Record.Line
import CredentialStore.Proofs.Secret.Answers
import CredentialStore.Proofs.Transaction.Ending

namespace CredentialStore

theorem Policy.exists_toUtf8?_of_check? {secret : TextOrBytes} {identity : Text} {verdict : Policy.Verdict}
    (hcheck : Policy.check? secret identity = some verdict) (haccepted : verdict.error? = none)
    (hidentity : identity ≠ []) : ∃ name, identity.toUtf8? = some name := by
  obtain ⟨octets, -, hcheck⟩ := Option.bind_eq_some_iff.1 hcheck
  cases hname : identity.toUtf8? with
  | some name => exact ⟨name, rfl⟩
  | none =>
    have hempty : identity.isEmpty = false := by simpa using hidentity
    simp only [hempty, hname] at hcheck
    split at hcheck
    · cases hcheck
      cases haccepted
    · split at hcheck
      · cases hcheck
        cases haccepted
      · cases hcheck

theorem Prompt.eq_of_accept {σ : Type} {verdict? : Option Policy.Verdict} {s : Scene} {state : σ}
    {given secret : Secret} (hrun : (s.run state (accept given verdict?)).1.1 = .ok secret) :
    given = secret ∧ ∃ verdict, verdict? = some verdict ∧ verdict.error? = none := by
  cases verdict? with
  | none => cases hrun
  | some verdict =>
    cases haccepted : verdict.error? with
    | some error =>
      simp only [accept, haccepted] at hrun
      cases hrun
    | none =>
      simp only [accept, haccepted] at hrun
      cases hrun
      exact ⟨rfl, verdict, rfl, haccepted⟩

theorem Prompt.exists_check?_of_newSecret {σ : Type} {source : SecretSource} {identity : Text}
    {s : Scene} {state : σ} {secret : Secret}
    (hrun : (s.run state (Prompt.newSecret source identity)).1.1 = .ok secret) :
    ∃ verdict, Policy.check? (.bytes secret.octets) identity = some verdict ∧ verdict.error? = none := by
  rw [newSecret_eq] at hrun
  obtain ⟨first, -, hrun⟩ := Scene.exists_of_run_bind hrun
  obtain ⟨again, -, hrun⟩ := Scene.exists_of_run_bind hrun
  by_cases hsame : first ≠ again
  · rw [if_pos hsame] at hrun
    obtain ⟨_, hrefused, -⟩ := Scene.exists_of_run_bind hrun
    cases hrefused
  · rw [if_neg hsame] at hrun
    obtain ⟨rfl, haccepted⟩ := eq_of_accept hrun
    exact haccepted

namespace Transaction

/-- The secrets of a transaction that were all given: the old one of an unprivileged caller who changes
    it, and a new one unless the record is deleted. -/
structure Gathered (t : Transaction) (secrets : Secrets) : Prop where
  asked : t.operation = .change → t.settings.privileged = false →
    ∃ old, secrets.authenticator = some { realm := t.settings.digestRealm, old := some old }
  unasked : ¬(t.operation = .change ∧ t.settings.privileged = false) → secrets.authenticator = none
  deleting : t.operation = .delete → secrets.new = none
  writing : t.operation ≠ .delete → t.identity ≠ [] →
    ∃ new identity, secrets.new = some new ∧ t.identity.toBytes? = some identity

variable {t : Transaction} {session : Session} {secrets : Secrets}

theorem of_run_gatherNew {s : Scene} {state : Progress} {authenticator : Option Authenticator}
    (hrun : (s.run state (t.gatherNew authenticator)).1.1 = .ok secrets) :
    secrets.authenticator = authenticator ∧ (t.operation = .delete → secrets.new = none) ∧
      (t.operation ≠ .delete → t.identity ≠ [] →
        ∃ new identity, secrets.new = some new ∧ t.identity.toBytes? = some identity) := by
  by_cases hdelete : t.operation = .delete
  · rw [gatherNew, if_pos hdelete] at hrun
    cases hrun
    exact ⟨rfl, fun _ => rfl, fun hwriting => absurd hdelete hwriting⟩
  · rw [gatherNew, if_neg hdelete] at hrun
    obtain ⟨_, hmapped, hpure⟩ := Scene.exists_of_run_bind hrun
    obtain ⟨new, hgiven, rfl⟩ := Scene.exists_of_run_map hmapped
    cases hpure
    refine ⟨rfl, fun hdeleting => absurd hdeleting hdelete, fun _ hidentity => ?_⟩
    obtain ⟨verdict, hcheck, haccepted⟩ := Prompt.exists_check?_of_newSecret hgiven
    obtain ⟨name, hname⟩ := Policy.exists_toUtf8?_of_check? hcheck haccepted hidentity
    exact ⟨new, name, rfl, Text.toBytes?_of_toUtf8? hname⟩

theorem gathered_of_secretsIn (hsecrets : t.secretsIn session = .ok secrets) : t.Gathered secrets := by
  rw [secretsIn, gatherSecrets_eq] at hsecrets
  by_cases hold : t.operation = .change ∧ t.settings.privileged = false
  · rw [if_pos hold] at hsecrets
    obtain ⟨_, hmapped, hnext⟩ := Scene.exists_of_run_bind hsecrets
    obtain ⟨acquired, hasked, rfl⟩ := Scene.exists_of_run_map hmapped
    obtain ⟨old, -, hpure⟩ := Scene.exists_of_run_bind hasked
    cases hpure
    obtain ⟨hauthenticator, hdeleting, hwriting⟩ := of_run_gatherNew hnext
    exact ⟨fun _ _ => ⟨old, hauthenticator⟩, fun hnot => absurd hold hnot, hdeleting, hwriting⟩
  · rw [if_neg hold] at hsecrets
    obtain ⟨hauthenticator, hdeleting, hwriting⟩ := of_run_gatherNew hsecrets
    exact ⟨fun hchange hunprivileged => absurd ⟨hchange, hunprivileged⟩ hold, fun _ => hauthenticator,
      hdeleting, hwriting⟩

/-- The old secret of an unprivileged caller who changes it is what the session answers first. -/
theorem exists_answer?_of_secretsIn (hchange : t.operation = .change)
    (hunprivileged : t.settings.privileged = false) (hsecrets : t.secretsIn session = .ok secrets) :
    ∃ entered old, session.answer? t.source = some entered ∧ entered.toBytes? = some old.octets ∧
      secrets.authenticator = some { realm := t.settings.digestRealm, old := some old } := by
  rw [secretsIn, gatherSecrets_eq, if_pos ⟨hchange, hunprivileged⟩] at hsecrets
  obtain ⟨_, hmapped, hnext⟩ := Scene.exists_of_run_bind hsecrets
  obtain ⟨acquired, hasked, rfl⟩ := Scene.exists_of_run_map hmapped
  obtain ⟨old, hold, hpure⟩ := Scene.exists_of_run_bind hasked
  cases hpure
  obtain ⟨entered, hanswer, hbytes⟩ := Prompt.exists_answer?_of_secret hold
  exact ⟨entered, old, hanswer, hbytes, (of_run_gatherNew hnext).1⟩

theorem valid_of_admitted (hadmitted : t.admitted = .ok ()) :
    Policy.validateField (text "username") t.identity = .ok () ∧
      Policy.validateField (text "group") t.realm = .ok () ∧
      t.settings.permits t.operation t.identity = true := by
  rw [admitted] at hadmitted
  cases hidentity : Policy.validateField (text "username") t.identity with
  | error error =>
    rw [hidentity] at hadmitted
    cases hadmitted
  | ok _ =>
    cases hrealm : Policy.validateField (text "group") t.realm with
    | error error =>
      rw [hidentity, hrealm] at hadmitted
      cases hadmitted
    | ok _ =>
      rw [hidentity, hrealm] at hadmitted
      by_cases hpermits : t.settings.permits t.operation t.identity = true
      · exact ⟨rfl, rfl, hpermits⟩
      · simp only [if_neg hpermits] at hadmitted
        cases hadmitted

theorem operation_eq_change (hadmitted : t.admitted = .ok ())
    (hunprivileged : t.settings.privileged = false) : t.operation = .change := by
  have hpermits := (valid_of_admitted hadmitted).2.2
  simp only [Settings.permits, hunprivileged, Bool.false_or, Bool.and_eq_true, beq_iff_eq] at hpermits
  exact hpermits.1

theorem identity_ne_nil (hadmitted : t.admitted = .ok ()) : t.identity ≠ [] := by
  have hvalid := (valid_of_admitted hadmitted).1
  intro hnil
  rw [hnil] at hvalid
  cases hvalid

/-- An admitted transaction about texts that were read from bytes writes records that are read back. -/
theorem isWritten_of_admitted {realm token : Text} {secret : Bytes} (hadmitted : t.admitted = .ok ())
    (hidentity : t.identity.IsDecoded) (hrealm : t.realm.IsDecoded)
    (htoken : Token.of? t.identity realm secret = some token) :
    Record.IsWritten ⟨t.identity, t.realm, token⟩ := by
  obtain ⟨hvalidIdentity, hvalidRealm, -⟩ := valid_of_admitted hadmitted
  exact ⟨Text.isField_of_validateField hidentity hvalidIdentity,
    Text.isField_of_validateField hrealm hvalidRealm, Token.isHex_of_of? htoken⟩

/-- The result of a deletion has no new record. -/
theorem eq_kept_of_resultIn {contents : Option Bytes} {written : Option Record} {octets : Bytes}
    (hdelete : t.operation = .delete) (hresult : t.resultIn session contents = .ok (written, octets)) :
    written = none ∧ octets = t.kept contents := by
  obtain ⟨-, secrets, hsecrets, heffect⟩ := of_resultIn_eq_ok hresult
  obtain ⟨hrecord, hdeleted, -⟩ := of_effect_eq_ok heffect
  simp only [newRecord, (gathered_of_secretsIn hsecrets).deleting hdelete] at hrecord
  cases hrecord
  exact ⟨rfl, hdeleted rfl⟩

/-- The result of any other operation has the token of the new secret in a record at its end. -/
theorem exists_record_of_resultIn {contents : Option Bytes} {written : Option Record} {octets : Bytes}
    (hwriting : t.operation ≠ .delete) (hresult : t.resultIn session contents = .ok (written, octets)) :
    ∃ secrets new token line, t.secretsIn session = .ok secrets ∧ secrets.new = some new ∧
      Token.of? t.identity (t.settings.realmForDigest t.realm) new.octets = some token ∧
      written = some ⟨t.identity, t.realm, token⟩ ∧
      Record.toLine? ⟨t.identity, t.realm, token⟩ = some line ∧
      octets = (t.kept contents).terminated ++ line := by
  obtain ⟨hadmitted, secrets, hsecrets, heffect⟩ := of_resultIn_eq_ok hresult
  obtain ⟨hrecord, -, hrenewed⟩ := of_effect_eq_ok heffect
  obtain ⟨new, -, hnew, -⟩ := (gathered_of_secretsIn hsecrets).writing hwriting (identity_ne_nil hadmitted)
  obtain ⟨token, htoken, rfl⟩ := exists_of_newRecord hnew hrecord
  obtain ⟨line, hline, hoctets⟩ := hrenewed _ rfl
  exact ⟨secrets, new, token, line, hsecrets, hnew, htoken, rfl, hline, hoctets⟩

theorem exists_error_of_admitted {failure : Failure} (hadmitted : t.admitted = .error failure) :
    ∃ error, failure = .credential error := by
  obtain ⟨reason, hinvalid, -⟩ | ⟨hrefused, -⟩ | ⟨hok, -⟩ := t.admission_cases
  · cases hadmitted.symm.trans hinvalid
    exact ⟨_, rfl⟩
  · cases hadmitted.symm.trans hrefused
    exact ⟨_, rfl⟩
  · cases hadmitted.symm.trans hok

theorem declines_gatherNew (authenticator : Option Authenticator) :
    (t.gatherNew authenticator).Declines t.source
      (Prompt.Declined (t.operation ≠ .delete ∧ t.identity.toUtf8? = none)) := by
  rw [gatherNew]
  split
  · exact Action.declines_bind (Action.declines_pure _) fun _ => Action.declines_pure _
  · rename_i hwriting
    refine Action.declines_bind (Action.declines_map ?_) fun _ => Action.declines_pure _
    exact (Prompt.declines_newSecret t.source t.identity).mono fun failure hdeclined =>
      .mono (fun hname => ⟨hwriting, hname⟩) hdeclined

/-- A transaction that is not given its secrets was declined one. -/
theorem declines_gatherSecrets : t.gatherSecrets.Declines t.source
    (Prompt.Declined (t.operation ≠ .delete ∧ t.identity.toUtf8? = none)) := by
  rw [gatherSecrets_eq]
  split
  · refine Action.declines_bind (Action.declines_map ?_) declines_gatherNew
    exact Action.declines_bind (Prompt.declines_secret t.source Prompt.old) fun _ => Action.declines_pure _
  · exact declines_gatherNew none

theorem of_grantedIn_eq_error {failure : Failure} (hgranted : t.grantedIn session = .error failure) :
    t.admitted = .error failure ∨ t.admitted = .ok () ∧ t.secretsIn session = .error failure := by
  rw [grantedIn] at hgranted
  cases hadmitted : t.admitted with
  | error failure' =>
    rw [hadmitted] at hgranted
    cases hgranted
    exact .inl rfl
  | ok _ =>
    rw [hadmitted] at hgranted
    exact .inr ⟨rfl, hgranted⟩

/-- What keeps a transaction from what it needs before it touches the store. -/
theorem declined_of_grantedIn {failure : Failure} (hgranted : t.grantedIn session = .error failure) :
    t.admitted = .error failure ∨ t.admitted = .ok () ∧
      (Prompt.Declined (t.operation ≠ .delete ∧ t.identity.toUtf8? = none) failure ∨
        t.source = .terminal ∧ .failure failure ∈ session.typed) :=
  (of_grantedIn_eq_error hgranted).imp_right fun ⟨hadmitted, hsecrets⟩ =>
    ⟨hadmitted, declines_gatherSecrets _ {} failure hsecrets⟩

/-- With a script for the prompts and an identity that has UTF-8, a secret is given or refused. -/
theorem refuses_gatherSecrets {name : Bytes} (hsource : t.source = .script)
    (hname : t.identity.toUtf8? = some name) : t.gatherSecrets.Refuses := by
  have hdeclines := declines_gatherSecrets (t := t)
  rw [hsource] at hdeclines
  refine hdeclines.refuses fun failure hdeclined => hdeclined.credential fun ⟨_, hunnamed⟩ => ?_
  cases hname.symm.trans hunnamed

theorem exists_error_of_grantedIn {name : Bytes} (hsource : t.source = .script)
    (hname : t.identity.toUtf8? = some name) {failure : Failure}
    (hgranted : t.grantedIn session = .error failure) : ∃ error, failure = .credential error := by
  obtain hadmitted | ⟨-, hsecrets⟩ := of_grantedIn_eq_error hgranted
  · exact exists_error_of_admitted hadmitted
  · exact refuses_gatherSecrets hsource hname _ {} failure hsecrets

end Transaction

end CredentialStore
