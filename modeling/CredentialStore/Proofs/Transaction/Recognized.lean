import CredentialStore.Proofs.Transaction.Authorized
import CredentialStore.Proofs.Transaction.History

namespace CredentialStore.Transaction

variable {t u : Transaction} {session : Session} {secrets : Secrets} {contents : Option Bytes}

/-- A committed transaction reports the record that it wrote, and the primary file holds its result. -/
theorem exists_result_of_committed (t : Transaction) {s s' : Scene} {tr : Trace} {report : Report}
    {state progress : Progress} (hsound : s.world.files.Sound)
    (hruns : (t.execute state).Runs .systemErrors s tr (.ok report, progress) s')
    (hcommitted : report.isCommitted = true) : ∃ octets,
      t.resultIn s.session (s.world.files.contents? t.settings.paths.primary) =
        .ok (report.record, octets) ∧
      s'.world.files.contents? t.settings.paths.primary = some octets := by
  obtain ⟨hupdated, -⟩ := t.primary_of_execute hsound hruns
  obtain ⟨written, octets, hresult, hcontents⟩ := hupdated ⟨report, rfl, hcommitted⟩
  obtain ⟨outcome, hreports, hended, -⟩ := t.exists_ended_of_runs hsound hruns
  obtain ⟨record, rfl⟩ := hreports.committed_iff.1 ⟨report, rfl, hcommitted⟩
  cases hended with
  | installed hassumes hresult' _ =>
    subst hassumes
    rw [hresult] at hresult'
    cases hresult'
    cases hreports
    exact ⟨octets, hresult, hcontents⟩

/-- A change of the record that a transaction is about by the caller whose record it is, with the same
    realm in its messages. -/
structure OwnChange (u t : Transaction) : Prop where
  serverRoot : u.settings.serverRoot = t.settings.serverRoot
  digestRealm : u.settings.digestRealm = t.settings.digestRealm
  operation : u.operation = .change
  identity : u.identity = t.identity
  realm : u.realm = t.realm
  user : u.settings.user = u.identity
  unprivileged : u.settings.privileged = false

/-- A record that is written where at most one line is of its key is found there afterwards. -/
theorem found_of_written {record : Record} {octets line : Bytes} (hown : u.OwnChange t)
    (hrecord : record.identity = t.identity ∧ record.realm = t.realm)
    (hone : (Bytes.lines (contents.getD [])).countP (Record.isLineFor t.identity t.realm) ≤ 1)
    (hwritten : record.IsWritten) (hline : record.toLine? = some line)
    (hoctets : octets = (t.kept contents).terminated ++ line) : u.found (some octets) = some record := by
  obtain ⟨hsingle, -, hparse⟩ := hwritten.octets_spec
  rw [hwritten.toLine?_eq_octets, Option.some.injEq] at hline
  rw [hline] at hsingle hparse
  have hlines := Record.lines_survivors_append t.identity t.realm (contents.getD []) hsingle
  have hnone : ∀ other ∈ (Record.survivors t.identity t.realm
      (Bytes.lines (contents.getD []))).map Bytes.terminated,
      Record.isLineFor t.identity t.realm other = false := by
    intro other hother
    obtain ⟨before, hbefore, rfl⟩ := List.mem_map.1 hother
    rw [Record.isLineFor_terminated]
    exact Record.isLineFor_eq_false_of_mem_survivors hone hbefore
  have hfor : Record.isLineFor t.identity t.realm line = true := by
    rw [Record.isLineFor, hparse, Option.any_some]
    exact Record.isFor_iff.2 hrecord
  rw [found, hown.identity, hown.realm, Option.getD_some, hoctets, kept, hlines,
    Record.firstFor?_append_of_isLineFor hnone hfor, hparse]

/-- A token has a message, and a message has the bytes of its realm. -/
theorem exists_toBytes?_of_token {identity realm token : Text} {secret : Bytes}
    (htoken : Token.of? identity realm secret = some token) : ∃ b, realm.toBytes? = some b := by
  obtain ⟨message, hmessage, -⟩ := Option.map_eq_some_iff.1 htoken
  obtain ⟨_, -, hmessage⟩ := Option.bind_eq_some_iff.1 hmessage
  obtain ⟨b, hb, -⟩ := Option.bind_eq_some_iff.1 hmessage
  exact ⟨b, hb⟩

/-- Where a transaction wrote a record, a change of it by its own caller is prepared. -/
theorem OwnChange.prepared {token : Text} {secret : Bytes} (hown : u.OwnChange t)
    (hadmitted : t.admitted = .ok ()) (hrealm : t.realm.IsDecoded)
    (htoken : Token.of? t.identity (t.settings.realmForDigest t.realm) secret = some token)
    (hsecrets : u.secretsIn session = .ok secrets) : u.Prepared session secrets := by
  obtain ⟨hvalidIdentity, hvalidRealm, -⟩ := valid_of_admitted hadmitted
  have hpermits : u.settings.permits u.operation u.identity = true := by
    simp [Settings.permits, hown.operation, hown.user]
  refine ⟨?_, hsecrets, ?_, fun realm hgiven => ?_⟩
  · rw [admitted, hpermits, hown.identity, hown.realm, hvalidIdentity, hvalidRealm]
    rfl
  · rw [hown.realm]
    exact hrealm.exists_toBytes?
  · rw [hown.digestRealm] at hgiven
    have hbytes := exists_toBytes?_of_token htoken
    rwa [Settings.realmForDigest, hgiven, Option.getD_some] at hbytes

/-- How a change ends whose caller has to know the secret of a token: it commits exactly if the old secret
    that is given has this token, and otherwise the secret is wrong. -/
structure Recognizes (u : Transaction) (token : Text) (old : Secret) (outcome : Except Failure Report) :
    Prop where
  committed : Reported outcome .committed ↔
    Token.of? u.identity (u.settings.realmForDigest u.realm) old.octets = some token
  mismatch : Reported outcome .mismatch ↔
    Token.of? u.identity (u.settings.realmForDigest u.realm) old.octets ≠ some token
  found : ¬Reported outcome .notFound

/-- A change of a record that is there, where nothing keeps it from updating the store. -/
theorem recognizes_of_found {record : Record} {old : Secret} {s : Scene} {state : Progress}
    {directory : Location} (hsound : s.world.files.Sound)
    (hready : u.settings.paths.Ready directory s.world.files) (hfaults : s.session.faults = [])
    (hprepared : u.Prepared s.session secrets) (hunprivileged : u.settings.privileged = false)
    (hold : secrets.old? = some old)
    (hfound : u.found (s.world.files.contents? u.settings.paths.primary) = some record) :
    u.Recognizes record.token old (s.run state u.execute).1.1 := by
  obtain ⟨tr, hruns, hcalm⟩ := s.runs_of_run .systemErrors state u.execute hfaults
  generalize s.run state u.execute = result at hruns ⊢
  obtain ⟨⟨outcome, progress⟩, s'⟩ := result
  obtain ⟨result, hreports, hended, -⟩ := u.exists_ended_of_runs hsound hruns
  obtain ⟨-, hmismatch, hcommitted⟩ := hprepared.reported hreports hended hcalm hready
  unfold storeBefore at hmismatch hcommitted
  have hpresent : ¬u.LacksRecord (s.world.files.contents? u.settings.paths.primary) := by
    rintro ⟨hnone, -⟩
    rw [hfound] at hnone
    cases hnone
  have hlacks : u.LacksSecret secrets (s.world.files.contents? u.settings.paths.primary) ↔
      Token.of? u.identity (u.settings.realmForDigest u.realm) old.octets ≠ some record.token := by
    constructor
    · rintro ⟨_, _, hfound', -, hold', hother⟩
      rw [hfound] at hfound'
      rw [hold] at hold'
      cases hfound'
      cases hold'
      exact hother
    · exact fun hother => ⟨record, old, hfound, hunprivileged, hold, hother⟩
  rw [hlacks] at hmismatch hcommitted
  have hknown := hcommitted hpresent
  by_cases hsame : Token.of? u.identity (u.settings.realmForDigest u.realm) old.octets = some record.token
  · have hreported := hknown fun hother => hother hsame
    refine ⟨⟨fun _ => hsame, fun _ => hreported⟩, ⟨fun h => ?_, fun hother => absurd hsame hother⟩, fun h => ?_⟩
    · cases hreported.unique h
    · cases hreported.unique h
  · have hreported := hmismatch hsame
    refine ⟨⟨fun h => ?_, fun h => absurd h hsame⟩, ⟨fun _ => hsame, fun _ => hreported⟩, fun h => ?_⟩
    · cases hreported.unique h
    · cases hreported.unique h

/-- After a transaction that wrote a record has committed, a change of the record by its own caller
    recognizes the secret that was written, and no other one of another token. -/
theorem recognizes_of_committed (t u : Transaction) {s s' s₂ : Scene} {tr : Trace} {report : Report}
    {state progress state₂ : Progress} {directory : Location}
    (hsound : s.world.files.Sound)
    (hone : (Bytes.lines ((s.world.files.contents? t.settings.paths.primary).getD [])).countP
      (Record.isLineFor t.identity t.realm) ≤ 1)
    (hidentity : t.identity.IsDecoded) (hrealm : t.realm.IsDecoded) (hwriting : t.operation ≠ .delete)
    (hruns : (t.execute state).Runs .systemErrors s tr (.ok report, progress) s')
    (hcommitted : report.isCommitted = true)
    (hown : u.OwnChange t)
    (hsound₂ : s₂.world.files.Sound)
    (hsame : s₂.world.files.contents? u.settings.paths.primary =
      s'.world.files.contents? u.settings.paths.primary)
    (hready : u.settings.paths.Ready directory s₂.world.files) (hfaults : s₂.session.faults = [])
    (hsecrets : u.secretsIn s₂.session = .ok secrets) :
    ∃ record before new entered old, report.record = some record ∧
      t.secretsIn s.session = .ok before ∧ before.new = some new ∧
      s₂.session.answer? u.source = some entered ∧ entered.toBytes? = some old.octets ∧
      u.found (s₂.world.files.contents? u.settings.paths.primary) = some record ∧
      u.Recognizes record.token old (s₂.run state₂ u.execute).1.1 ∧
      (old = new → Reported (s₂.run state₂ u.execute).1.1 .committed) := by
  have hpaths : u.settings.paths = t.settings.paths := congrArg StorePaths.locate hown.serverRoot
  obtain ⟨octets, hresult, hcontents⟩ := t.exists_result_of_committed hsound hruns hcommitted
  have hadmitted := (of_resultIn_eq_ok hresult).1
  obtain ⟨before, new, token, line, hbefore, hnew, htoken, hreport, hline, hoctets⟩ :=
    exists_record_of_resultIn hwriting hresult
  have hwritten := isWritten_of_admitted hadmitted hidentity hrealm htoken
  have hfound : u.found (s₂.world.files.contents? u.settings.paths.primary) =
      some ⟨t.identity, t.realm, token⟩ := by
    rw [hsame, hpaths, hcontents]
    exact found_of_written hown ⟨rfl, rfl⟩ hone hwritten hline hoctets
  have hprepared := hown.prepared hadmitted hrealm htoken hsecrets
  obtain ⟨entered, old, hanswer, hbytes, hauthenticator⟩ :=
    exists_answer?_of_secretsIn hown.operation hown.unprivileged hsecrets
  have hold : secrets.old? = some old := by
    rw [Secrets.old?, hauthenticator]
    rfl
  have hrecognizes : u.Recognizes token old (s₂.run state₂ u.execute).1.1 :=
    recognizes_of_found hsound₂ hready hfaults hprepared hown.unprivileged hold hfound
  refine ⟨_, before, new, entered, old, hreport, hbefore, hnew, hanswer, hbytes, hfound, hrecognizes, ?_⟩
  rintro rfl
  rw [hrecognizes.committed, hown.identity, hown.realm, Settings.realmForDigest, hown.digestRealm]
  exact htoken

theorem ready_changeScene : sampleChange.settings.paths.Ready [[0x73, 0x72, 0x76]]
    changeScene.world.files :=
  ⟨⟨rfl, rfl, rfl, rfl⟩, rfl, not_or.2 ⟨by decide, by decide⟩⟩

theorem ownChange_sampleChange : sampleChange.OwnChange sampleAddition := ⟨rfl, rfl, rfl, rfl, rfl, rfl, rfl⟩

/-- The change commits after the addition, with the secret that was added. -/
theorem sampleChange_recognizes : ∃ report progress tr s',
    (sampleAddition.execute {}).Runs .systemErrors emptyScene tr (.ok report, progress) s' ∧
      report.isCommitted = true ∧ ∃ record before new entered old, report.record = some record ∧
        sampleAddition.secretsIn emptyScene.session = .ok before ∧ before.new = some new ∧
        changeScene.session.answer? sampleChange.source = some entered ∧
        entered.toBytes? = some old.octets ∧
        sampleChange.found (changeScene.world.files.contents? sampleChange.settings.paths.primary) =
          some record ∧
        sampleChange.Recognizes record.token old (changeScene.run {} sampleChange.execute).1.1 ∧
        (old = new → Reported (changeScene.run {} sampleChange.execute).1.1 .committed) := by
  obtain ⟨tr, hruns, -⟩ := emptyScene.runs_of_run .systemErrors {} sampleAddition.execute rfl
  have hcommitted : Committed (emptyScene.run {} sampleAddition.execute).1.1 := by decide +kernel
  have hsame : changeScene.world.files.contents? sampleChange.settings.paths.primary =
      (emptyScene.run {} sampleAddition.execute).2.world.files.contents?
        sampleChange.settings.paths.primary := by decide +kernel
  generalize emptyScene.run {} sampleAddition.execute = result at hruns hcommitted hsame
  obtain ⟨⟨outcome, progress⟩, s'⟩ := result
  obtain ⟨report, rfl, hcommitted⟩ := hcommitted
  have hidentity : sampleAddition.identity.IsDecoded := ⟨[0x61, 0x6C], rfl⟩
  have hrealm : sampleAddition.realm.IsDecoded := ⟨[0x73, 0x79, 0x73], rfl⟩
  refine ⟨report, progress, tr, s', hruns, hcommitted, ?_⟩
  exact recognizes_of_committed sampleAddition sampleChange sound_emptyScene (Nat.zero_le 1) hidentity
    hrealm (by decide) hruns hcommitted ownChange_sampleChange sound_changeScene hsame ready_changeScene rfl
    rfl

end CredentialStore.Transaction
