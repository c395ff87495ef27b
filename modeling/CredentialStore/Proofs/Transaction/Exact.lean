import CredentialStore.Proofs.Record.Line
import CredentialStore.Proofs.Transaction.Atomic
import CredentialStore.Proofs.Transaction.Gathering

namespace CredentialStore

theorem Authenticator.verify_eq {realm : Option Text} {old : Secret} {record : Record} {computed : Text}
    (hcomputed : Token.of? record.identity (realm.getD record.realm) old.octets = some computed)
    (hdecoded : record.token.IsDecoded) :
    Authenticator.verify { realm, old := some old } record =
      if computed = record.token then .ok () else .error (.credential .wrongSecret) := by
  have hsame := Token.same?_eq (Token.isHex_of_of? hcomputed).isAscii.isDecoded hdecoded
  simp only [verify, hcomputed, hsame]
  by_cases heq : computed = record.token
  · rw [decide_eq_true heq, if_pos heq]
    rfl
  · rw [decide_eq_false heq, if_neg heq]
    rfl

namespace Transaction

open FileSystem StorePaths

variable {t : Transaction} {session : Session} {secrets : Secrets} {contents : Option Bytes}

/-- The old secret that was given, where one was asked for. -/
def Secrets.old? (secrets : Secrets) : Option Secret := secrets.authenticator.bind Authenticator.old

/-- An executed transaction reports an outcome. -/
def Reported (outcome : Except Failure Report) (result : Outcome) : Prop :=
  ∃ report, outcome = .ok report ∧ report.outcome = result

/-- There is no record to change, or none to delete where it may not be missing. -/
def LacksRecord (t : Transaction) (contents : Option Bytes) : Prop :=
  t.found contents = none ∧
    (t.operation = .change ∨ t.operation = .delete ∧ t.settings.allowMissingDelete = false)

/-- There is a record, and an unprivileged caller gave an old secret of another token. -/
def LacksSecret (t : Transaction) (secrets : Secrets) (contents : Option Bytes) : Prop :=
  ∃ record old, t.found contents = some record ∧ t.settings.privileged = false ∧
    secrets.old? = some old ∧
    Token.of? t.identity (t.settings.realmForDigest t.realm) old.octets ≠ some record.token

/-- A store with the line of the new secret at its end: what survives of the old store, a line feed if
    its last line is open, and the three fields. -/
def Renewed (t : Transaction) (secrets : Secrets) (contents : Option Bytes) (octets : Bytes) : Prop :=
  ∃ new identity realm token digits, secrets.new = some new ∧ t.identity.toBytes? = some identity ∧
    t.realm.toBytes? = some realm ∧
    Token.of? t.identity (t.settings.realmForDigest t.realm) new.octets = some token ∧
    token.toBytes? = some digits ∧
    octets = (t.kept contents).terminated ++
      (identity ++ Token.colon :: (realm ++ Token.colon :: (digits ++ [Rewrite.lineFeed])))

/-- A transaction whose fields, permission and secrets pass, in realms that have bytes. -/
structure Prepared (t : Transaction) (session : Session) (secrets : Secrets) : Prop where
  admitted : t.admitted = .ok ()
  secretsIn : t.secretsIn session = .ok secrets
  realm : ∃ b, t.realm.toBytes? = some b
  digestRealm : ∀ realm, t.settings.digestRealm = some realm → ∃ b, realm.toBytes? = some b

/-- What an executed transaction reports, and what it leaves of the store `before`. -/
structure Exact (t : Transaction) (secrets : Secrets) (before : Option Bytes)
    (outcome : Except Failure Report) (after : Option Bytes) : Prop where
  notFound : Reported outcome .notFound ↔ t.LacksRecord before
  mismatch : Reported outcome .mismatch ↔ t.LacksSecret secrets before
  committed : Reported outcome .committed ↔ ¬t.LacksRecord before ∧ ¬t.LacksSecret secrets before
  deleted : Reported outcome .committed → t.operation = .delete → after = some (t.kept before)
  renewed : Reported outcome .committed → t.operation ≠ .delete →
    ∃ octets, after = some octets ∧ t.Renewed secrets before octets

theorem Reported.unique {outcome : Except Failure Report} {a b : Outcome} (ha : Reported outcome a)
    (hb : Reported outcome b) : a = b := by
  obtain ⟨report, rfl, rfl⟩ := ha
  obtain ⟨_, hreport, rfl⟩ := hb
  cases hreport
  rfl

theorem requiresMatch_iff : t.requiresMatch = true ↔
    t.operation = .change ∨ t.operation = .delete ∧ t.settings.allowMissingDelete = false := by
  cases hoperation : t.operation <;> simp [requiresMatch, hoperation]

theorem checkMatched_of_lacksRecord (hlacks : t.LacksRecord contents) :
    t.checkMatched secrets (t.found contents) =
      .error (.credential (.notFound t.identity t.realm)) := by
  rw [hlacks.1, checkMatched, if_pos (requiresMatch_iff.2 hlacks.2)]
  rfl

theorem checkMatched_of_not_lacksRecord (hnone : t.found contents = none)
    (hcomplete : ¬t.LacksRecord contents) : t.checkMatched secrets (t.found contents) = .ok () := by
  have hmissing : ¬t.requiresMatch = true := fun hrequires =>
    hcomplete ⟨hnone, requiresMatch_iff.1 hrequires⟩
  rw [hnone, checkMatched, if_neg hmissing]
  rfl

theorem isDecoded_of_found {record : Record} (hfound : t.found contents = some record) :
    record.token.IsDecoded := by
  obtain ⟨line, -, hparse⟩ := Option.bind_eq_some_iff.1 hfound
  exact (Record.isDecoded_of_parse hparse).2.2

namespace Prepared

variable (hprepared : t.Prepared session secrets)

include hprepared

theorem gathered : t.Gathered secrets := gathered_of_secretsIn hprepared.secretsIn

theorem exists_realmForDigest : ∃ b, (t.settings.realmForDigest t.realm).toBytes? = some b := by
  cases hdigest : t.settings.digestRealm with
  | none =>
    obtain ⟨b, hb⟩ := hprepared.realm
    exact ⟨b, by rw [Settings.realmForDigest, hdigest, Option.getD_none, hb]⟩
  | some realm =>
    obtain ⟨b, hb⟩ := hprepared.digestRealm realm hdigest
    exact ⟨b, by rw [Settings.realmForDigest, hdigest, Option.getD_some, hb]⟩

theorem exists_token (hwriting : t.operation ≠ .delete) (secret : Secret) :
    ∃ token, Token.of? t.identity (t.settings.realmForDigest t.realm) secret.octets = some token := by
  obtain ⟨_, identity, -, hidentity⟩ :=
    hprepared.gathered.writing hwriting (identity_ne_nil hprepared.admitted)
  obtain ⟨realm, hrealm⟩ := hprepared.exists_realmForDigest
  exact Token.exists_of? hidentity hrealm secret.octets

/-- The record that is found is checked by the old secret where the caller is not privileged. -/
theorem checkMatched_of_found {record : Record} (hfound : t.found contents = some record) :
    t.checkMatched secrets (t.found contents) = .ok () ∧ ¬t.LacksSecret secrets contents ∨
      t.checkMatched secrets (t.found contents) = .error (.credential .wrongSecret) ∧
        t.LacksSecret secrets contents := by
  have hgathered := hprepared.gathered
  cases hprivileged : t.settings.privileged with
  | true =>
    have hnone := hgathered.unasked fun hasked => by simp [hprivileged] at hasked
    refine .inl ⟨by rw [hfound, checkMatched, hnone]; rfl, ?_⟩
    rintro ⟨_, _, -, hunprivileged, -⟩
    rw [hprivileged] at hunprivileged
    cases hunprivileged
  | false =>
    have hchange := operation_eq_change hprepared.admitted hprivileged
    obtain ⟨old, hold⟩ := hgathered.asked hchange hprivileged
    obtain ⟨computed, hcomputed⟩ := hprepared.exists_token (by simp [hchange]) old
    have hfor := Record.isFor_iff.1 (Record.isFor_of_firstFor? hfound)
    have hof : Token.of? record.identity (t.settings.digestRealm.getD record.realm) old.octets =
        some computed := by
      rw [hfor.1, hfor.2]
      exact hcomputed
    have hcheck : t.checkMatched secrets (t.found contents) =
        if computed = record.token then .ok () else .error (.credential .wrongSecret) := by
      rw [hfound, checkMatched, hold]
      exact Authenticator.verify_eq hof (isDecoded_of_found hfound)
    have hgiven : secrets.old? = some old := by rw [Secrets.old?, hold]; rfl
    by_cases hsame : computed = record.token
    · refine .inl ⟨by rw [hcheck, if_pos hsame], ?_⟩
      rintro ⟨_, _, hfound', -, hgiven', hother⟩
      rw [hfound] at hfound'
      rw [hgiven] at hgiven'
      cases hfound'
      cases hgiven'
      exact hother (hcomputed.trans (congrArg some hsame))
    · refine .inr ⟨by rw [hcheck, if_neg hsame], record, old, hfound, hprivileged, hgiven, ?_⟩
      rw [hcomputed]
      exact fun heq => hsame (Option.some.inj heq)

theorem checkMatched_of_complete (hrecord : ¬t.LacksRecord contents)
    (hsecret : ¬t.LacksSecret secrets contents) :
    t.checkMatched secrets (t.found contents) = .ok () := by
  cases hfound : t.found contents with
  | none => exact hfound ▸ checkMatched_of_not_lacksRecord hfound hrecord
  | some record =>
    obtain ⟨hok, -⟩ | ⟨-, hlacks⟩ := hprepared.checkMatched_of_found hfound
    · exact hfound ▸ hok
    · exact absurd hlacks hsecret

theorem checkMatched_of_lacksSecret (hlacks : t.LacksSecret secrets contents) :
    t.checkMatched secrets (t.found contents) = .error (.credential .wrongSecret) := by
  have hrecord : ∃ record, t.found contents = some record := by
    obtain ⟨record, _, hfound, -⟩ := hlacks
    exact ⟨record, hfound⟩
  obtain ⟨record, hfound⟩ := hrecord
  obtain ⟨-, hknown⟩ | ⟨herror, -⟩ := hprepared.checkMatched_of_found hfound
  · exact absurd hlacks hknown
  · exact herror

theorem exists_effect (hcheck : t.checkMatched secrets (t.found contents) = .ok ()) :
    ∃ record octets, t.effect secrets contents = .ok (record, octets) ∧
      (t.operation = .delete → octets = t.kept contents) ∧
      (t.operation ≠ .delete → t.Renewed secrets contents octets) := by
  by_cases hdelete : t.operation = .delete
  · have hnew := hprepared.gathered.deleting hdelete
    refine ⟨none, t.kept contents, ?_, fun _ => rfl, fun hwriting => absurd hdelete hwriting⟩
    simp only [effect, hcheck, newRecord, hnew]
    rfl
  · obtain ⟨new, identity, hnew, hidentity⟩ :=
      hprepared.gathered.writing hdelete (identity_ne_nil hprepared.admitted)
    obtain ⟨realm, hrealm⟩ := hprepared.realm
    obtain ⟨token, htoken⟩ := hprepared.exists_token hdelete new
    obtain ⟨digits, hdigits, -⟩ := (Token.isHex_of_of? htoken).exists_toBytes?
    have hrecord : t.newRecord secrets = .ok (some ⟨t.identity, t.realm, token⟩) := by
      simp only [newRecord, hnew, htoken]
      rfl
    refine ⟨some ⟨t.identity, t.realm, token⟩, _, ?_, fun hdeleting => absurd hdeleting hdelete, fun _ =>
      ⟨new, identity, realm, token, digits, hnew, hidentity, hrealm, htoken, hdigits, rfl⟩⟩
    rw [effect_of_newRecord hcheck hrecord, Record.toLine?_eq hidentity hrealm hdigits]

theorem resultIn_eq (contents : Option Bytes) :
    t.resultIn session contents = t.effect secrets contents := by
  simp only [resultIn, hprepared.admitted, hprepared.secretsIn]
  rfl

end Prepared

/-- Where no failure strikes and the store is ready, the transaction ends as its result says. -/
theorem Ended.eq_resultIn {outcome : Except Failure (Option Record)} {tr : Trace} {before : FileSystem}
    {directory : Location} (hended : t.Ended (· = before) session outcome tr) (hcalm : ¬tr.Disturbed)
    (hready : t.settings.paths.Ready directory before) :
    outcome = (t.resultIn session (t.storeBefore before)).map Prod.fst := by
  cases hended with
  | installed hassumes hresult hstanding =>
    subst hassumes
    rw [hresult]
    rfl
  | failed hstanding hreason =>
    obtain hdisturbed | ⟨_, rfl, hnever | hresult⟩ := hreason
    · exact absurd hdisturbed hcalm
    · exact absurd hready (hnever directory)
    · rw [hresult]
      rfl

theorem reported_of_ended {outcome : Except Failure (Option Record)} {report : Except Failure Report}
    {tr : Trace} {before : FileSystem} {directory : Location} {failure : CredentialError}
    (hreports : t.Reports outcome report) (hended : t.Ended (· = before) session outcome tr)
    (hcalm : ¬tr.Disturbed) (hready : t.settings.paths.Ready directory before)
    (hresult : t.resultIn session (t.storeBefore before) = .error (.credential failure)) :
    Reported report (.ofError failure) := by
  have hfailed := hended.eq_resultIn hcalm hready
  rw [hresult] at hfailed
  cases hfailed
  cases hreports with
  | aborted _ failedIn => exact ⟨_, rfl, rfl⟩
  | escaped hfailure => exact absurd rfl (hfailure failure)

theorem reported_committed_iff {outcome : Except Failure Report} :
    Reported outcome .committed ↔ Committed outcome := by
  simp [Reported, Committed, Report.isCommitted]

/-- What is reported where no failure strikes and the store is ready. -/
theorem Prepared.reported {outcome : Except Failure (Option Record)} {report : Except Failure Report}
    {tr : Trace} {before : FileSystem} {directory : Location} (hprepared : t.Prepared session secrets)
    (hreports : t.Reports outcome report) (hended : t.Ended (· = before) session outcome tr)
    (hcalm : ¬tr.Disturbed) (hready : t.settings.paths.Ready directory before) :
    (t.LacksRecord (t.storeBefore before) → Reported report .notFound) ∧
      (t.LacksSecret secrets (t.storeBefore before) → Reported report .mismatch) ∧
      (¬t.LacksRecord (t.storeBefore before) → ¬t.LacksSecret secrets (t.storeBefore before) →
        Reported report .committed) := by
  have hresult := hprepared.resultIn_eq (t.storeBefore before)
  have hfailed : ∀ error, t.checkMatched secrets (t.found (t.storeBefore before)) =
      .error (.credential error) → Reported report (.ofError error) := by
    intro error hcheck
    refine reported_of_ended hreports hended hcalm hready (hresult.trans ?_)
    simp only [effect, hcheck]
    rfl
  refine ⟨fun hlacks => ?_, fun hlacks => ?_, fun hrecord hsecret => ?_⟩
  · exact hfailed _ (checkMatched_of_lacksRecord hlacks)
  · exact hfailed _ (hprepared.checkMatched_of_lacksSecret hlacks)
  · obtain ⟨written, octets, heffect, -⟩ :=
      hprepared.exists_effect (hprepared.checkMatched_of_complete hrecord hsecret)
    have hok := hended.eq_resultIn hcalm hready
    rw [hresult, heffect] at hok
    exact reported_committed_iff.2 (hreports.committed_iff.2 ⟨written, hok⟩)

/-- A transaction that nothing keeps from updating the store has exactly its effect: it misses its
    record, or the secret is wrong, or the new store is the one that is told. -/
theorem execute_exact (t : Transaction) {s : Scene} {directory : Location} {secrets : Secrets}
    (hsound : s.world.files.Sound) (hready : t.settings.paths.Ready directory s.world.files)
    (hfaults : s.session.faults = []) (hprepared : t.Prepared s.session secrets) :
    t.Exact secrets (s.world.files.contents? t.settings.paths.primary) (s.run {} t.execute).1.1
      ((s.run {} t.execute).2.world.files.contents? t.settings.paths.primary) := by
  obtain ⟨tr, hruns, hcalm⟩ := s.runs_of_run .systemErrors {} t.execute hfaults
  generalize s.run {} t.execute = result at hruns ⊢
  obtain ⟨⟨outcome, progress⟩, s'⟩ := result
  obtain ⟨result, hreports, hended, -⟩ := t.exists_ended_of_runs hsound hruns
  obtain ⟨hupdated, -⟩ := t.primary_of_execute hsound hruns
  obtain ⟨hnotFound, hmismatch, hcommitted⟩ := hprepared.reported hreports hended hcalm hready
  unfold storeBefore at hnotFound hmismatch hcommitted
  generalize s.world.files.contents? t.settings.paths.primary = before at *
  have hcomplete : Reported outcome .committed → ¬t.LacksRecord before ∧
      ¬t.LacksSecret secrets before := by
    refine fun hreported => ⟨fun hrecord => ?_, fun hsecret => ?_⟩
    · cases (hnotFound hrecord).unique hreported
    · cases (hmismatch hsecret).unique hreported
  have hafter : Reported outcome .committed →
      ∃ octets, s'.world.files.contents? t.settings.paths.primary = some octets ∧
        (t.operation = .delete → octets = t.kept before) ∧
        (t.operation ≠ .delete → t.Renewed secrets before octets) := by
    intro hreported
    obtain ⟨hrecord, hsecret⟩ := hcomplete hreported
    obtain ⟨_, octets, heffect, hspec⟩ :=
      hprepared.exists_effect (hprepared.checkMatched_of_complete hrecord hsecret)
    obtain ⟨_, installed, hinstalled, hcontents⟩ := hupdated (reported_committed_iff.1 hreported)
    rw [hprepared.resultIn_eq, heffect] at hinstalled
    cases hinstalled
    exact ⟨octets, hcontents, hspec⟩
  refine ⟨⟨fun hreported => ?_, hnotFound⟩, ⟨fun hreported => ?_, hmismatch⟩,
    ⟨hcomplete, fun h => hcommitted h.1 h.2⟩, fun hreported hdelete => ?_, fun hreported hwriting => ?_⟩
  · by_contra hrecord
    by_cases hsecret : t.LacksSecret secrets before
    · cases (hmismatch hsecret).unique hreported
    · cases (hcommitted hrecord hsecret).unique hreported
  · by_contra hsecret
    by_cases hrecord : t.LacksRecord before
    · cases (hnotFound hrecord).unique hreported
    · cases (hcommitted hrecord hsecret).unique hreported
  · obtain ⟨octets, hcontents, hdeleted, -⟩ := hafter hreported
    rw [hcontents, hdeleted hdelete]
  · obtain ⟨octets, hcontents, -, hrenewed⟩ := hafter hreported
    exact ⟨octets, hcontents, hrenewed hwriting⟩

theorem ready_sampleScene : sampleRemoval.settings.paths.Ready [[0x73, 0x72, 0x76]]
    sampleScene.world.files :=
  ⟨⟨rfl, rfl, rfl, rfl⟩, rfl, not_or.2 ⟨by decide, by decide⟩⟩

theorem prepared_sampleRemoval : sampleRemoval.Prepared sampleScene.session {} := by
  refine ⟨?_, ?_, ?_, ?_⟩
  · rfl
  · rfl
  · exact ⟨_, rfl⟩
  · intro realm hrealm
    cases hrealm

/-- The removal has exactly its effect in the directory. -/
theorem sampleRemoval_exact : Committed (sampleScene.run {} sampleRemoval.execute).1.1 ∧
    sampleRemoval.Exact {} (sampleScene.world.files.contents? sampleRemoval.settings.paths.primary)
      (sampleScene.run {} sampleRemoval.execute).1.1
      ((sampleScene.run {} sampleRemoval.execute).2.world.files.contents?
        sampleRemoval.settings.paths.primary) := by
  refine ⟨by decide +kernel, ?_⟩
  exact execute_exact sampleRemoval sound_sampleScene ready_sampleScene rfl prepared_sampleRemoval

end Transaction

end CredentialStore
