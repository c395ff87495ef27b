import CredentialStore.Proofs.Store.Reached
import CredentialStore.Proofs.Transaction.Ending

namespace CredentialStore

open FileSystem StorePaths

variable {strikes : Strikes} {assumes : FileSystem → Prop} {paths : StorePaths}
  {update : Option Bytes → Option Bytes}

namespace Contract.Follows

variable {st st' : Standing} {fs fs' : FileSystem} {tr : Trace}

theorem standing_of_released
    (hfollows : (storeContract strikes assumes paths update).Follows st fs tr fs')
    (hreleased : st = .removed ∨ st = .installed) :
    tr.foldl Standing.next st = st ∧ ∀ e ∈ tr, e.turn? = none := by
  induction hfollows with
  | nil st fs => exact ⟨rfl, by simp⟩
  | @cons st _ _ _ e _ hstep hrest ih =>
    have hturn : e.turn? = none := by
      cases hstep with
      | aside hturn => exact hturn
      | _ => simp at hreleased
    have hnext : st.next e = st := by rw [Standing.next, hturn, Option.getD_none]
    rw [hnext] at ih
    obtain ⟨hlast, hrest⟩ := ih hreleased
    refine ⟨by rw [List.foldl_cons, hnext, hlast], fun e' he' => ?_⟩
    rcases List.mem_cons.1 he' with rfl | he'
    · exact hturn
    · exact hrest e' he'

theorem standing_of_installed
    (hfollows : (storeContract strikes assumes paths update).Follows st fs tr fs') {e : Event}
    (he : e ∈ tr) (hturn : e.turn? = some .installed) : tr.foldl Standing.next st = .installed := by
  induction hfollows with
  | nil st fs => cases he
  | @cons st _ _ _ _ _ hstep hrest ih =>
    rcases List.mem_cons.1 he with rfl | he
    · have hnext : st.next e = .installed := by rw [Standing.next, hturn, Option.getD_some]
      rw [List.foldl_cons, hnext]
      rw [hnext] at hrest
      exact (hrest.standing_of_released (.inr rfl)).1
    · exact ih he

end Contract.Follows

namespace Trace

/-- A standing that changed was changed by an event. -/
theorem exists_turn?_of_foldl_ne {st : Standing} {tr : Trace}
    (hne : tr.foldl Standing.next st ≠ st) :
    ∃ e ∈ tr, e.turn? = some (tr.foldl Standing.next st) := by
  induction tr using List.reverseRecOn with
  | nil => exact absurd rfl hne
  | append_singleton tr e ih =>
    rw [List.foldl_append, List.foldl_cons, List.foldl_nil] at hne ⊢
    cases hturn : e.turn? with
    | some turned =>
      refine ⟨e, by simp, ?_⟩
      rw [hturn, Standing.next, hturn, Option.getD_some]
    | none =>
      have hnext : Standing.next (tr.foldl Standing.next st) e = tr.foldl Standing.next st := by
        rw [Standing.next, hturn, Option.getD_none]
      rw [hnext] at hne ⊢
      obtain ⟨e', he', hturn'⟩ := ih hne
      exact ⟨e', by simp [he'], hturn'⟩

theorem standing_ne_outside {tr : Trace} {e : Event} (he : e ∈ tr) (hturn : e.turn?.isSome) :
    tr.standing ≠ .outside := by
  induction tr using List.reverseRecOn with
  | nil => cases he
  | append_singleton tr last ih =>
    rw [standing_append_singleton, Standing.next]
    cases hlast : last.turn? with
    | some turned =>
      rw [Option.getD_some]
      rintro rfl
      exact last.turn?_ne_outside hlast
    | none =>
      rw [Option.getD_none]
      rcases List.mem_append.1 he with he | he
      · exact ih he
      · rw [List.mem_singleton.1 he, hlast] at hturn
        cases hturn

end Trace

namespace Transaction

/-- Whether a transaction reports that it committed. -/
def Committed (outcome : Except Failure Report) : Prop :=
  ∃ report, outcome = .ok report ∧ report.isCommitted = true

instance (outcome : Except Failure Report) : Decidable (Committed outcome) :=
  match outcome with
  | .ok report => decidable_of_iff (report.isCommitted = true)
      ⟨fun hcommitted => ⟨report, rfl, hcommitted⟩, fun ⟨_, hreport, hcommitted⟩ => by
        cases hreport
        exact hcommitted⟩
  | .error _ => isFalse fun ⟨_, hreport, _⟩ => by cases hreport

theorem isCommitted_aborted (t : Transaction) (failedIn : Phase) (error : CredentialError) :
    (t.aborted failedIn error).isCommitted = false := by
  cases error <;> rfl

theorem Reports.committed_iff {t : Transaction} {outcome : Except Failure (Option Record)}
    {report : Except Failure Report} (hreports : t.Reports outcome report) :
    Committed report ↔ ∃ record, outcome = .ok record := by
  cases hreports with
  | committed record phase => exact ⟨fun _ => ⟨record, rfl⟩, fun _ => ⟨_, rfl, rfl⟩⟩
  | aborted error failedIn =>
    constructor
    · rintro ⟨_, hreport, hcommitted⟩
      cases hreport
      rw [isCommitted_aborted] at hcommitted
      cases hcommitted
    · rintro ⟨_, hrecord⟩
      cases hrecord
  | escaped hfailure =>
    constructor
    · rintro ⟨_, hreport, _⟩
      cases hreport
    · rintro ⟨_, hrecord⟩
      cases hrecord

/-- A transaction that installed its result is the one that committed. -/
theorem Ended.installed_iff {t : Transaction} {session : Session}
    {outcome : Except Failure (Option Record)} {tr : Trace}
    (hended : t.Ended assumes session outcome tr) :
    tr.standing = .installed ↔ ∃ record, outcome = .ok record := by
  cases hended with
  | installed hassumes hresult hstanding => exact ⟨fun _ => ⟨_, rfl⟩, fun _ => hstanding⟩
  | failed hstanding hreason =>
    constructor
    · intro hinstalled
      rcases hstanding with houtside | hremoved | ⟨⟨file, hholding⟩, -⟩
      · cases hinstalled.symm.trans houtside
      · cases hinstalled.symm.trans hremoved
      · cases hinstalled.symm.trans hholding
    · rintro ⟨_, hrecord⟩
      cases hrecord

/-- What an executed transaction made of the files `before` and what it reports of it. -/
structure Atomic (t : Transaction) (session : Session) (before after : FileSystem)
    (outcome : Except Failure Report) (tr : Trace) : Prop where
  /-- The transaction committed exactly if its staging file was installed. -/
  installed : Committed outcome ↔ ∃ e ∈ tr, e.turn? = some .installed
  /-- The primary file of a committed transaction holds the new store. -/
  updated : Committed outcome → ∃ record octets,
    t.resultIn session (before.contents? t.settings.paths.primary) = .ok (record, octets) ∧
      after.contents? t.settings.paths.primary = some octets
  /-- Otherwise the primary file is as it was, or there is still none. -/
  kept : ¬Committed outcome →
    after.contents? t.settings.paths.primary = before.contents? t.settings.paths.primary ∧
      after.entryAt? t.settings.paths.primary = before.entryAt? t.settings.paths.primary
  /-- Where a staging file lay already, nothing changed. -/
  busy : before.entryAt? t.settings.paths.staging ≠ none → after = before
  /-- A staging file that was created and not installed is gone, unless cleaning up failed. -/
  cleared : (∃ e ∈ tr, ∃ file, e.turn? = some (.holding file)) → ¬Committed outcome →
    ¬tr.CleanUpFailed → after.entryAt? t.settings.paths.staging = none
  /-- Nothing changed outside of the three files of the store. -/
  confined : after = before ∨ ∃ directory, t.settings.paths.LeadTo before directory ∧
    ChangedOnly [stagingAt directory, backupAt directory, primaryAt directory] before after

/-- How a transaction ends that runs while nobody else does anything to the files. -/
theorem exists_ended_of_runs (t : Transaction) {s s' : Scene} {tr : Trace}
    {outcome : Except Failure Report} {state progress : Progress} (hsound : s.world.files.Sound)
    (hruns : (t.execute state).Runs .systemErrors s tr (outcome, progress) s') :
    ∃ result, t.Reports result outcome ∧ t.Ended (· = s.world.files) s.session result tr ∧
      (storeContract .systemErrors (· = s.world.files) t.settings.paths (t.updateIn s.session)).Follows
        .outside s.world.files tr s'.world.files := by
  have houtside : Trace.standing [] = .outside := rfl
  have hsafe : t.execute.Safe (storeContract .systemErrors (· = s.world.files) t.settings.paths
      (t.updateIn s.session)) (fun report _ tr' _ => ∃ outcome, t.Reports outcome report ∧
        t.Ended (· = s.world.files) s.session outcome tr') state [] s :=
    safe_execute t Strikes.honest_systemErrors Strikes.onlySystem_systemErrors
      (fun fs (hfs : fs = s.world.files) => hfs ▸ hsound) houtside rfl
  obtain ⟨⟨result, hreports, hended⟩, hfollows⟩ :=
    Program.Safe.of_runs (k := storeContract .systemErrors (· = s.world.files) t.settings.paths
      (t.updateIn s.session)) (fun _ _ _ => Conduct.files_eq) hsafe (fun _ => rfl) hruns
  exact ⟨result, hreports, hended, hfollows⟩

theorem sound_of_execute (t : Transaction) {s s' : Scene} {tr : Trace}
    {outcome : Except Failure Report} {state progress : Progress} (hsound : s.world.files.Sound)
    (hruns : (t.execute state).Runs .systemErrors s tr (outcome, progress) s') : s'.world.files.Sound := by
  obtain ⟨_, -, -, hfollows⟩ := t.exists_ended_of_runs hsound hruns
  exact (Reached.outside.of_follows hsound hfollows).sound hsound

/-- The primary file of a committed transaction holds its result, and otherwise it is as it was. -/
theorem primary_of_execute (t : Transaction) {s s' : Scene} {tr : Trace}
    {outcome : Except Failure Report} {state progress : Progress} (hsound : s.world.files.Sound)
    (hruns : (t.execute state).Runs .systemErrors s tr (outcome, progress) s') :
    (Committed outcome → ∃ record octets,
      t.resultIn s.session (s.world.files.contents? t.settings.paths.primary) = .ok (record, octets) ∧
        s'.world.files.contents? t.settings.paths.primary = some octets) ∧
      (¬Committed outcome →
        s'.world.files.contents? t.settings.paths.primary =
            s.world.files.contents? t.settings.paths.primary ∧
          s'.world.files.entryAt? t.settings.paths.primary =
            s.world.files.entryAt? t.settings.paths.primary) := by
  obtain ⟨result, hreports, hended, hfollows⟩ := t.exists_ended_of_runs hsound hruns
  have hreached := Reached.outside.of_follows hsound hfollows
  have hcommitted : Committed outcome ↔ tr.standing = .installed :=
    hreports.committed_iff.trans hended.installed_iff.symm
  refine ⟨fun hcommit => ?_, fun hcommit => ?_⟩
  · have hinstalled := hcommitted.1 hcommit
    rw [show tr.foldl Standing.next .outside = .installed from hinstalled] at hreached
    obtain ⟨record, rfl⟩ := hended.installed_iff.1 hinstalled
    cases hended with
    | @installed _ octets _ _ hassumes hresult =>
      subst hassumes
      exact ⟨record, octets, hresult, hreached.contents?_of_installed.trans (updateIn_of_ok hresult)⟩
  · exact hreached.primary_eq hsound fun hinstalled => hcommit (hcommitted.2 hinstalled)

/-- A transaction committed exactly if its staging file was installed. -/
theorem committed_iff_installed (t : Transaction) {s s' : Scene} {tr : Trace}
    {outcome : Except Failure Report} {state progress : Progress} (hsound : s.world.files.Sound)
    (hruns : (t.execute state).Runs .systemErrors s tr (outcome, progress) s') :
    Committed outcome ↔ ∃ e ∈ tr, e.turn? = some .installed := by
  obtain ⟨result, hreports, hended, hfollows⟩ := t.exists_ended_of_runs hsound hruns
  refine (hreports.committed_iff.trans hended.installed_iff.symm).trans
    ⟨fun hinstalled => ?_, fun ⟨e, he, hturn⟩ => ?_⟩
  · have hne : tr.foldl Standing.next .outside ≠ .outside := by
      rw [show tr.foldl Standing.next .outside = _ from hinstalled]
      simp
    obtain ⟨e, he, hturn⟩ := Trace.exists_turn?_of_foldl_ne hne
    exact ⟨e, he, hturn.trans (congrArg some hinstalled)⟩
  · exact hfollows.standing_of_installed he hturn

/-- An executed transaction is atomic, whichever of its calls fail. -/
theorem execute_atomic (t : Transaction) {s s' : Scene} {tr : Trace} {outcome : Except Failure Report}
    {progress : Progress} (hsound : s.world.files.Sound)
    (hruns : (t.execute {}).Runs .systemErrors s tr (outcome, progress) s') :
    t.Atomic s.session s.world.files s'.world.files outcome tr := by
  obtain ⟨result, hreports, hended, hfollows⟩ := t.exists_ended_of_runs hsound hruns
  obtain ⟨hupdated, hkept⟩ := t.primary_of_execute hsound hruns
  have hreached : Reached t.settings.paths (t.updateIn s.session) s.world.files tr.standing
      s'.world.files := Reached.outside.of_follows hsound hfollows
  have hcommitted : Committed outcome ↔ tr.standing = .installed :=
    hreports.committed_iff.trans hended.installed_iff.symm
  refine ⟨t.committed_iff_installed hsound hruns, hupdated, hkept, hreached.eq_of_staging, ?_,
    hreached.confined⟩
  · rintro ⟨e, he, file, hturn⟩ hcommit hclean
    have hcreated := Trace.standing_ne_outside he (by rw [hturn]; rfl)
    cases hended with
    | installed _ _ hstanding => exact absurd (hcommitted.2 hstanding) hcommit
    | failed hstanding =>
      rcases hstanding with houtside | hremoved | ⟨-, -, hfailed⟩
      · exact absurd houtside hcreated
      · rw [hremoved] at hreached
        exact hreached.staging_eq_none
      · exact absurd hfailed hclean

/-- A removal that may find nothing to remove, by a privileged caller. -/
def sampleRemoval : Transaction where
  settings := {
    serverRoot := text "/srv"
    user := text "root"
    privileged := true
    defaultRealm := text "staff"
    allowMissingDelete := true
    stagingMode := 0o640
    serverRoot_ne_nil := by decide
    user_ne_nil := by decide
    defaultRealm_ne_nil := by decide
    stagingMode_le := by decide }
  operation := .delete
  identity := text "al"
  realm := text "sys"
  source := .script

/-- A directory with a store of two lines, of which one is a record. -/
def sampleScene : Scene where
  world := {
    files := {
      entries := [([[0x73, 0x72, 0x76]], .directory),
        ([[0x73, 0x72, 0x76], StorePaths.primaryOctets], .file 0)]
      files := [⟨[0x61, 0x6C, 0x3A, 0x73, 0x79, 0x73, 0x3A, 0x30, 0x0A, 0x62, 0x0A], 0o600⟩]
      umask := 0o22 } }
  session := {}

theorem sound_sampleScene : sampleScene.world.files.Sound := by
  refine Sound.of_entries (fun there id hmem => ?_) (by decide)
  simp only [sampleScene, List.mem_cons, Prod.mk.injEq, reduceCtorEq, and_false, false_or,
    List.not_mem_nil, or_false, Entry.file.injEq] at hmem
  rw [hmem.2]
  exact Nat.zero_lt_one

/-- The removal commits in the directory, and it is atomic. -/
theorem sampleRemoval_atomic : ∃ outcome progress tr s',
    (sampleRemoval.execute {}).Runs .systemErrors sampleScene tr (outcome, progress) s' ∧
      Committed outcome ∧
      sampleRemoval.Atomic sampleScene.session sampleScene.world.files s'.world.files outcome tr := by
  obtain ⟨tr, hruns, -⟩ := sampleScene.runs_of_run .systemErrors {} sampleRemoval.execute rfl
  have hcommitted : Committed (sampleScene.run {} sampleRemoval.execute).1.1 := by decide +kernel
  generalize sampleScene.run {} sampleRemoval.execute = result at hruns hcommitted
  obtain ⟨⟨outcome, progress⟩, s'⟩ := result
  exact ⟨outcome, progress, tr, s', hruns, hcommitted,
    execute_atomic sampleRemoval sound_sampleScene hruns⟩

end Transaction

end CredentialStore
