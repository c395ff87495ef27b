import CredentialStore.Proofs.Store.Telling
import CredentialStore.Proofs.Transaction.Course
import CredentialStore.Proofs.Transaction.Exact

namespace CredentialStore.Transaction

open CredentialStore.Action Rewrite

variable {t : Transaction} {secrets : Secrets} {bare : Call → Prop} {made : Failure → Prop}
  {state state' : Progress} {s s' : Scene} {tr : Trace}

/-- Whether one of the texts that a new record is made of has no bytes. -/
def LacksBytes (t : Transaction) : Prop :=
  t.identity.toBytes? = none ∨ (t.settings.realmForDigest t.realm).toBytes? = none ∨
    t.realm.toBytes? = none

/-- What can end the work on a store where no call fails. -/
inductive Makes (t : Transaction) : Failure → Prop
  | notFound : Makes t (.credential (.notFound t.identity t.realm))
  | wrongSecret : Makes t (.credential .wrongSecret)
  | unencodable (hwriting : t.operation ≠ .delete) (hlacks : t.LacksBytes) : Makes t .unencodable

theorem not_makes_system (cause : SystemError) : ¬t.Makes (.system cause) := by
  intro hmakes
  cases hmakes

theorem eq_none_of_of? {identity realm : Text} {secret : Bytes}
    (hof : Token.of? identity realm secret = none) : identity.toBytes? = none ∨ realm.toBytes? = none := by
  cases hidentity : identity.toBytes? with
  | none => exact .inl rfl
  | some x =>
    cases hrealm : realm.toBytes? with
    | none => exact .inr rfl
    | some y =>
      obtain ⟨token, htoken⟩ := Token.exists_of? hidentity hrealm secret
      cases hof.symm.trans htoken

/-- The check of the record that was found fails as the work can fail. -/
theorem makes_of_checkMatched (hgathered : t.Gathered secrets) {seen : Summary}
    (hmatches : t.rewrite.Matches seen) {failure : Failure}
    (hcheck : t.checkMatched secrets seen.matched = .error failure) : t.Makes failure := by
  cases hmatched : seen.matched with
  | none =>
    rw [hmatched, checkMatched] at hcheck
    split at hcheck
    · cases hcheck
      exact .notFound
    · cases hcheck
  | some record =>
    obtain ⟨⟨line, hparse⟩, hfor⟩ := hmatches record hmatched
    obtain ⟨hidentity, hrealm⟩ : record.identity = t.identity ∧ record.realm = t.realm :=
      Record.isFor_iff.1 hfor
    rw [hmatched] at hcheck
    by_cases hasked : t.operation = .change ∧ t.settings.privileged = false
    · obtain ⟨old, hold⟩ := hgathered.asked hasked.1 hasked.2
      simp only [checkMatched, hold] at hcheck
      cases hof : Token.of? record.identity (t.settings.digestRealm.getD record.realm) old.octets with
      | none =>
        simp only [Authenticator.verify, hof] at hcheck
        cases hcheck
        refine .unencodable (by simp [hasked.1]) ?_
        obtain hlacks | hlacks := eq_none_of_of? hof
        · exact .inl (hidentity ▸ hlacks)
        · exact .inr (.inl (hrealm ▸ hlacks))
      | some computed =>
        rw [Authenticator.verify_eq hof (Record.isDecoded_of_parse hparse).2.2] at hcheck
        split at hcheck
        · cases hcheck
        · cases hcheck
          exact .wrongSecret
    · simp only [checkMatched, hgathered.unasked hasked] at hcheck
      cases hcheck

theorem makes_of_newRecord (hgathered : t.Gathered secrets) {failure : Failure}
    (hrecord : t.newRecord secrets = .error failure) : t.Makes failure := by
  have hwriting : ∀ secret, secrets.new = some secret → t.operation ≠ .delete := by
    intro secret hnew hdelete
    cases hnew.symm.trans (hgathered.deleting hdelete)
  simp only [newRecord] at hrecord
  split at hrecord
  · cases hrecord
  · rename_i secret hnew
    split at hrecord
    · cases hrecord
      exact .unencodable (hwriting secret hnew) ((eq_none_of_of? ‹_›).imp_right .inl)
    · cases hrecord

/-- A new record has a line, unless its identity or its realm has no bytes. -/
theorem makes_of_toLine? (hgathered : t.Gathered secrets) {record : Record}
    (hrecord : t.newRecord secrets = .ok (some record)) (hline : record.toLine? = none) :
    t.Makes .unencodable := by
  simp only [newRecord] at hrecord
  split at hrecord
  · cases hrecord
  · rename_i secret hnew
    split at hrecord
    · cases hrecord
    · rename_i token htoken
      cases hrecord
      refine .unencodable (fun hdelete => ?_) ?_
      · cases hnew.symm.trans (hgathered.deleting hdelete)
      · obtain ⟨b, hb, -⟩ := (Token.isHex_of_of? htoken).exists_toBytes?
        cases hidentity : t.identity.toBytes? with
        | none => exact .inl hidentity
        | some x =>
          cases hrealm : t.realm.toBytes? with
          | none => exact .inr (.inr hrealm)
          | some y => cases hline.symm.trans (Record.toLine?_eq hidentity hrealm hb)

theorem tells_rewriting {α : Type} {step : Action Rewrite.State α}
    {post : Except Failure α → Progress → Prop}
    (htells : step.Tells bare made (fun outcome r => post outcome { state with rewrite := r }) state.rewrite) :
    (rewriting step).Tells bare made post state :=
  tells_onPart htells

theorem tells_check {α : Type} {outcome : Except Failure α} {post : Except Failure α → Progress → Prop}
    (hmade : ∀ failure, outcome = .error failure → made failure) (hpost : post outcome state) :
    (check outcome).Tells bare made post state := by
  cases outcome with
  | ok value => exact tells_pure hpost
  | error failure => exact tells_throw (hmade failure rfl) hpost

theorem tells_conclude {file : FileId} (seen : Summary) (record : Option Record)
    (hopen : state.rewrite.Open file) :
    (t.conclude seen record).Tells bare t.Makes (fun _ state' => state'.rewrite.owned = true) state := by
  have hvalidate : (t.validate record).Tells bare t.Makes (fun _ state' => state'.rewrite.owned = true)
      state := by
    refine tells_bind (tells_rewriting ((tells_close not_makes_system hopen.owned).mono ?_))
    intro outcome rewrite howned
    cases outcome with
    | error failure => exact howned
    | ok _ => exact tells_modify_bind (tells_pure howned)
  unfold conclude
  split
  · exact tells_bind (tells_note hvalidate)
  · exact hvalidate

/-- The staging file is completed; the rewrite owns it until the end. -/
theorem tells_complete {file : FileId} (hgathered : t.Gathered secrets) (seen : Summary)
    {record : Option Record} (hrecord : t.newRecord secrets = .ok record)
    (hopen : state.rewrite.Open file) :
    (t.complete seen record).Tells bare t.Makes (fun _ state' => state'.rewrite.owned = true) state := by
  rw [complete_eq]
  cases record with
  | none => exact tells_conclude seen none hopen
  | some record =>
    refine tells_bind (tells_rewriting ((tells_append hopen fun hline => ?_).mono ?_))
    · exact makes_of_toLine? hgathered hrecord hline
    · intro outcome rewrite hopen'
      cases outcome with
      | error failure => exact hopen'.owned
      | ok _ => exact tells_conclude seen (some record) hopen'

theorem tells_prepare {file : FileId} (hgathered : t.Gathered secrets) (hopen : state.rewrite.Open file) :
    (t.prepare secrets).Tells bare t.Makes (fun _ state' => state'.rewrite.owned = true) state := by
  rw [prepare_eq]
  refine tells_bind (tells_rewriting ((tells_merge not_makes_system hopen).mono ?_))
  rintro (failure | seen) rewrite ⟨hopen', hmatches⟩
  · exact hopen'.owned
  · refine tells_modify_bind (tells_bind (tells_check ?_ ?_))
    · exact fun failure => makes_of_checkMatched hgathered (hmatches seen rfl)
    · cases t.checkMatched secrets seen.matched with
      | error failure => exact hopen'.owned
      | ok _ =>
        refine tells_bind (tells_check (fun failure => makes_of_newRecord hgathered) ?_)
        cases hrecord : t.newRecord secrets with
        | error failure => exact hopen'.owned
        | ok record => exact tells_complete hgathered seen hrecord hopen'

/-- Applying a transaction tells the failure of any call on the files. -/
theorem tells_apply (hgathered : t.Gathered secrets) :
    (t.apply secrets).Tells bare t.Makes (fun _ _ => True) state := by
  refine tells_modify_bind (tells_bind (tells_rewriting ((tells_acquire not_makes_system).mono ?_)))
  rintro (failure | _) rewrite hacquired
  · trivial
  · obtain ⟨hpath, file, hopen⟩ := hacquired () rfl
    refine tells_modify_bind (tells_bind (tells_orCleanUp ((tells_prepare hgathered hopen).mono ?_)))
    rintro (failure | record) state' -
    · intro s s' tr outcome state'' hruns
      obtain ⟨rewrite, rfl, hdiscard⟩ := Runs.of_onPart hruns
      exact ⟨fun _ => trivial, (cleans_discard hpath hdiscard).2⟩
    · refine tells_bind (tells_rewriting (tells_modify ?_))
      refine tells_bind (Commit.tells_commit hpath fun outcome => ?_)
      cases outcome with
      | error failure => trivial
      | ok _ => exact tells_modify_bind (tells_pure trivial)

theorem leadsTo_of_apply (bare : Call → Prop) (hgathered : t.Gathered secrets) {failure : Failure}
    (hruns : (t.apply secrets).Runs .foreign state s tr (.error failure) state' s') :
    tr.LeadsTo bare t.Makes failure := by
  have htells : (t.apply secrets).Tells bare t.Makes (fun _ _ => True) state := tells_apply hgathered
  exact (htells hruns).2

theorem smooth_of_apply (hgathered : t.Gathered secrets) {record : Option Record}
    (hruns : (t.apply secrets).Runs .foreign state s tr (.ok record) state' s') : tr.Smooth := by
  have htells : (t.apply secrets).Tells (fun _ => True) t.Makes (fun _ _ => True) state := tells_apply hgathered
  exact (htells hruns).2

/-- The opening makes no call on the files, and it gives what the session grants. -/
theorem granted_of_opening {outcome : Except Failure Secrets}
    (hruns : t.opening.Runs .foreign state s tr outcome state' s') :
    outcome = t.grantedIn s.session ∧ state'.phase = .start ∧ ∀ e ∈ tr, e.call.faultPoint? = none := by
  have huses : t.opening.Uses (·.faultPoint? = none) := uses_opening rfl fun _ => Call.Asks.faultPoint?_eq
  have hpoints := hruns.calls huses
  have hcalm := hruns.calm_of_points hpoints
  have hsafe : t.opening.Safe (storeContract .systemErrors (· = s.world.files) t.settings.paths id)
      (fun outcome state' _ _ => outcome = t.grantedIn s.session ∧ state'.phase = .start) state [] s :=
    safe_opening t Strikes.honest_systemErrors rfl fun _ _ _ => ⟨rfl, rfl⟩
  obtain ⟨⟨houtcome, hphase⟩, -⟩ := hsafe.of_runs (fun _ => rfl) (Program.Runs.of_calm hcalm hruns)
  exact ⟨houtcome, hphase, hpoints⟩

theorem gathered_of_grantedIn {session : Session} (hgranted : t.grantedIn session = .ok secrets) :
    t.Gathered secrets :=
  gathered_of_secretsIn (of_grantedIn_eq_ok hgranted).2

/-- A run of a transaction is refused at the opening, or it applies the transaction. -/
theorem of_run {outcome : Except Failure (Option Record)}
    (hruns : t.run.Runs .foreign state s tr outcome state' s') :
    (∃ failure, outcome = .error failure ∧ t.grantedIn s.session = .error failure ∧
      state'.phase = .start ∧ t.opening.Runs .foreign state s tr (.error failure) state' s') ∨
    ∃ secrets middle s₁ first rest, tr = first ++ rest ∧ t.grantedIn s.session = .ok secrets ∧
      t.Gathered secrets ∧ t.opening.Runs .foreign state s first (.ok secrets) middle s₁ ∧
      (t.apply secrets).Runs .foreign middle s₁ rest outcome state' s' := by
  rw [run_eq] at hruns
  obtain ⟨secrets, middle, s₁, first, rest, rfl, hopening, happly⟩ | ⟨failure, rfl, hopening⟩ :=
    hruns.of_bind
  · have hgranted := (granted_of_opening hopening).1.symm
    exact .inr ⟨secrets, middle, s₁, first, rest, rfl, hgranted, gathered_of_grantedIn hgranted,
      hopening, happly⟩
  · obtain ⟨hgranted, hphase, -⟩ := granted_of_opening hopening
    exact .inl ⟨failure, rfl, hgranted.symm, hphase, hopening⟩

theorem eq_error_of_reportOf {phase : Phase} {result : Except Failure (Option Record)} {failure : Failure}
    (hreport : t.reportOf phase result = .error failure) : result = .error failure := by
  rcases result with reason | record
  · cases reason <;> cases hreport <;> rfl
  · cases hreport

/-- The exit status of a report tells whether it is one of a committed transaction. -/
theorem exitStatus_of_reportOf {phase : Phase} {result : Except Failure (Option Record)} {report : Report}
    (hreport : t.reportOf phase result = .ok report) :
    report.exitStatus = if report.isCommitted then 0 else 1 := by
  rcases result with failure | record
  · cases failure with
    | credential error =>
      cases hreport
      rw [isCommitted_aborted, if_neg Bool.false_ne_true]
      rfl
    | _ => cases hreport
  · cases hreport
    rfl

end CredentialStore.Transaction
