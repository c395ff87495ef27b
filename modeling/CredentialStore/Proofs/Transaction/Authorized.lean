import CredentialStore.Proofs.Store.Listing
import CredentialStore.Proofs.Store.Removing
import CredentialStore.Proofs.Transaction.Exact

namespace CredentialStore

/-- An old secret that is accepted has the token of the record. -/
theorem Authenticator.of?_of_verify_eq_ok {realm : Option Text} {old : Secret} {record : Record}
    (hdecoded : record.token.IsDecoded)
    (hverify : Authenticator.verify { realm, old := some old } record = .ok ()) :
    Token.of? record.identity (realm.getD record.realm) old.octets = some record.token := by
  cases hcomputed : Token.of? record.identity (realm.getD record.realm) old.octets with
  | none =>
    simp only [verify, hcomputed] at hverify
    cases hverify
  | some computed =>
    rw [verify_eq hcomputed hdecoded] at hverify
    by_cases hsame : computed = record.token
    · rw [hsame]
    · rw [if_neg hsame] at hverify
      cases hverify

/-- The octets of a new store in which one record is replaced: without the first line for an identity and
    a realm, and without lines before it that are no record, all lines stand as they stood, the last one
    ended; one line for the identity and the realm comes after them. -/
def Replaced (identity realm : Text) (before after : Bytes) (record : Record) : Prop :=
  ∃ front line back added token,
    Bytes.lines before = front ++ line :: back ∧ Record.parse line = some record ∧
    (record.identity = identity ∧ record.realm = realm) ∧
    (∀ other ∈ front, Record.isLineFor identity realm other = false) ∧
    Bytes.lines after =
      (front.filter (fun other => (Record.parse other).isSome) ++ back).map Bytes.terminated ++ [added] ∧
    Record.parse added = some ⟨identity, realm, token⟩

namespace Transaction

variable {t : Transaction} {session : Session} {secrets : Secrets} {contents : Option Bytes}

theorem checkMatched_of_effect_eq_ok {result : Option Record × Bytes}
    (heffect : t.effect secrets contents = .ok result) :
    t.checkMatched secrets (t.found contents) = .ok () := by
  cases hcheck : t.checkMatched secrets (t.found contents) with
  | ok _ => rfl
  | error failure =>
    simp only [effect, hcheck] at heffect
    cases heffect

theorem identity_eq_user (hadmitted : t.admitted = .ok ())
    (hunprivileged : t.settings.privileged = false) : t.identity = t.settings.user := by
  have hpermits := (valid_of_admitted hadmitted).2.2
  simp only [Settings.permits, hunprivileged, Bool.false_or, Bool.and_eq_true, beq_iff_eq] at hpermits
  exact hpermits.2

/-- An unprivileged caller who passes the check knows the secret of the record that is there. -/
theorem exists_found_of_checkMatched {old : Secret} (hchange : t.operation = .change)
    (hold : secrets.authenticator = some { realm := t.settings.digestRealm, old := some old })
    (hcheck : t.checkMatched secrets (t.found contents) = .ok ()) :
    ∃ record, t.found contents = some record ∧
      Token.of? t.identity (t.settings.realmForDigest t.realm) old.octets = some record.token := by
  cases hfound : t.found contents with
  | none =>
    have hlacks : t.LacksRecord contents := ⟨hfound, .inl hchange⟩
    rw [checkMatched_of_lacksRecord hlacks] at hcheck
    cases hcheck
  | some record =>
    rw [hfound, checkMatched, hold] at hcheck
    have hof := Authenticator.of?_of_verify_eq_ok (isDecoded_of_found hfound) hcheck
    obtain ⟨hidentity, hrealm⟩ := Record.isFor_iff.1 (Record.isFor_of_firstFor? hfound)
    rw [hidentity, hrealm] at hof
    exact ⟨record, rfl, hof⟩

/-- A record that is written in place of one that was found is read back as it was. -/
theorem isWritten_of_found {record : Record} {realm token : Text} {secret : Bytes}
    (hadmitted : t.admitted = .ok ()) (hfound : t.found contents = some record)
    (htoken : Token.of? t.identity realm secret = some token) :
    Record.IsWritten ⟨t.identity, t.realm, token⟩ := by
  obtain ⟨line, -, hparse⟩ := Option.bind_eq_some_iff.1 hfound
  obtain ⟨hidentity, hrealm, -⟩ := Record.isDecoded_of_parse hparse
  obtain ⟨hsameIdentity, hsameRealm⟩ := Record.isFor_iff.1 (Record.isFor_of_firstFor? hfound)
  rw [hsameIdentity] at hidentity
  rw [hsameRealm] at hrealm
  exact isWritten_of_admitted hadmitted hidentity hrealm htoken

/-- A store with a new record in place of the one that was found. -/
theorem replaced_of_found {record : Record} {token : Text} {line : Bytes}
    (hfound : t.found contents = some record)
    (hwritten : Record.IsWritten ⟨t.identity, t.realm, token⟩)
    (hline : Record.toLine? ⟨t.identity, t.realm, token⟩ = some line) :
    Replaced t.identity t.realm (contents.getD []) ((t.kept contents).terminated ++ line) record := by
  obtain ⟨hsingle, -, hread⟩ := hwritten.octets_spec
  rw [hwritten.toLine?_eq_octets, Option.some.injEq] at hline
  rw [hline] at hsingle hread
  obtain ⟨front, first, back, hcut, hparse, hfront, hsurvivors⟩ := Record.survivors_eq_of_firstFor? hfound
  have hlines := Record.lines_survivors_append t.identity t.realm (contents.getD []) hsingle
  refine ⟨front, first, back, line, token, hcut, hparse, ?_, hfront, ?_, hread⟩
  · exact Record.isFor_iff.1 (Record.isFor_of_firstFor? hfound)
  · rw [hsurvivors] at hlines
    rw [kept, hsurvivors]
    exact hlines

/-- What entitles an unprivileged caller to a change of the store, and how far it goes. -/
structure Authorized (t : Transaction) (session : Session) (before after : Option Bytes) : Prop where
  operation : t.operation = .change
  /-- It is the caller's own record. -/
  identity : t.identity = t.settings.user
  /-- The first answer is the secret of the record that is replaced, and nothing else is. -/
  replaced : ∃ record entered old octets octets', t.found before = some record ∧
    session.answer? t.source = some entered ∧ entered.toBytes? = some old ∧
    Token.of? t.identity (t.settings.realmForDigest t.realm) old = some record.token ∧
    before = some octets ∧ after = some octets' ∧ Replaced t.identity t.realm octets octets' record

/-- The result of an unprivileged caller is one that the caller is entitled to. -/
theorem authorized_of_resultIn {record : Option Record} {octets : Bytes}
    (hunprivileged : t.settings.privileged = false)
    (hresult : t.resultIn session contents = .ok (record, octets)) :
    t.Authorized session contents (some octets) := by
  obtain ⟨hadmitted, secrets, hsecrets, heffect⟩ := of_resultIn_eq_ok hresult
  have hchange := operation_eq_change hadmitted hunprivileged
  obtain ⟨entered, old, hanswer, hbytes, hold⟩ :=
    exists_answer?_of_secretsIn hchange hunprivileged hsecrets
  obtain ⟨matched, hfound, htoken⟩ :=
    exists_found_of_checkMatched hchange hold (checkMatched_of_effect_eq_ok heffect)
  obtain ⟨_, _, token, line, -, -, hof, -, hline, rfl⟩ :=
    exists_record_of_resultIn (by simp [hchange]) hresult
  have hwritten := isWritten_of_found hadmitted hfound hof
  have hreplaced := replaced_of_found hfound hwritten hline
  cases contents with
  | none => cases hfound
  | some before =>
    exact ⟨hchange, identity_eq_user hadmitted hunprivileged, matched, entered, old.octets, before, _,
      hfound, hanswer, hbytes, htoken, rfl, rfl, hreplaced⟩

/-- Whatever calls fail, an unprivileged caller who changes the primary file is entitled to it. -/
theorem authorized_of_changed (t : Transaction) {s s' : Scene} {tr : Trace}
    {outcome : Except Failure Report} {state progress : Progress} (hsound : s.world.files.Sound)
    (hunprivileged : t.settings.privileged = false)
    (hruns : (t.execute state).Runs .systemErrors s tr (outcome, progress) s')
    (hchanged : ¬(s'.world.files.contents? t.settings.paths.primary =
        s.world.files.contents? t.settings.paths.primary ∧
      s'.world.files.entryAt? t.settings.paths.primary =
        s.world.files.entryAt? t.settings.paths.primary)) :
    t.Authorized s.session (s.world.files.contents? t.settings.paths.primary)
      (s'.world.files.contents? t.settings.paths.primary) := by
  obtain ⟨hupdated, hkept⟩ := t.primary_of_execute hsound hruns
  have hcommitted : Committed outcome := by
    by_contra hnot
    exact hchanged (hkept hnot)
  obtain ⟨record, octets, hresult, hcontents⟩ := hupdated hcommitted
  rw [hcontents]
  exact authorized_of_resultIn hunprivileged hresult

/-- A change by the caller whose record it is. -/
def sampleChange : Transaction where
  settings := {
    sampleRemoval.settings with
    user := text "al"
    privileged := false
    user_ne_nil := by decide }
  operation := .change
  identity := text "al"
  realm := text "sys"
  source := .script

/-- A directory with a store of one record, and the answers to three prompts: the secret of that record
    and twice a new one. -/
def changeScene : Scene where
  world := {
    files := {
      entries := [([[0x73, 0x72, 0x76]], .directory),
        ([[0x73, 0x72, 0x76], StorePaths.primaryOctets], .file 0)]
      files := [⟨Record.octets ⟨text "al", text "sys", text "8d6008691b8621ea8a303b6dba89d7ba"⟩, 0o600⟩]
      umask := 0o22 } }
  session := { script := [some (text "secret1"), some (text "secret2"), some (text "secret2")] }

theorem sound_changeScene : changeScene.world.files.Sound := by
  refine FileSystem.Sound.of_entries (fun there id hmem => ?_) (by decide)
  simp only [changeScene, List.mem_cons, Prod.mk.injEq, reduceCtorEq, and_false, false_or,
    List.not_mem_nil, or_false, Entry.file.injEq] at hmem
  rw [hmem.2]
  exact Nat.zero_lt_one

/-- The change changes the primary file, and the caller is entitled to it. -/
theorem sampleChange_authorized : ∃ outcome progress tr s',
    (sampleChange.execute {}).Runs .systemErrors changeScene tr (outcome, progress) s' ∧
      s'.world.files.contents? sampleChange.settings.paths.primary ≠
        changeScene.world.files.contents? sampleChange.settings.paths.primary ∧
      sampleChange.Authorized changeScene.session
        (changeScene.world.files.contents? sampleChange.settings.paths.primary)
        (s'.world.files.contents? sampleChange.settings.paths.primary) := by
  obtain ⟨tr, hruns, -⟩ := changeScene.runs_of_run .systemErrors {} sampleChange.execute rfl
  have hchanged : (changeScene.run {} sampleChange.execute).2.world.files.contents?
      sampleChange.settings.paths.primary ≠
        changeScene.world.files.contents? sampleChange.settings.paths.primary := by decide +kernel
  generalize changeScene.run {} sampleChange.execute = result at hruns hchanged
  obtain ⟨⟨outcome, progress⟩, s'⟩ := result
  exact ⟨outcome, progress, tr, s', hruns, hchanged,
    authorized_of_changed sampleChange sound_changeScene rfl hruns fun hsame => hchanged hsame.1⟩

end Transaction

end CredentialStore
