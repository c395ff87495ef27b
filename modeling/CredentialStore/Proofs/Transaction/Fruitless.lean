import CredentialStore.Proofs.Transaction.History
import CredentialStore.Proofs.Transaction.Undisturbed

namespace CredentialStore

theorem Record.survivors_eq_self {identity realm : Text} {lines : List Bytes}
    (hrecords : ∀ line ∈ lines, (parse line).isSome)
    (hothers : ∀ line ∈ lines, isLineFor identity realm line = false) :
    survivors identity realm lines = lines := by
  have hpassed : ∀ line ∈ lines, (!isLineFor identity realm line) = true := by
    intro line hline
    rw [hothers line hline]
    rfl
  rw [survivors, List.takeWhile_eq_self_iff.2 hpassed, List.dropWhile_eq_nil_iff.2 hpassed,
    List.filter_eq_self.2 hrecords, List.tail_nil, List.append_nil]

theorem Record.firstFor?_eq_none {identity realm : Text} {lines : List Bytes}
    (hothers : ∀ line ∈ lines, isLineFor identity realm line = false) :
    firstFor? identity realm lines = none := by
  have hnone : lines.find? (isLineFor identity realm) = none := by
    rw [List.find?_eq_none]
    intro line hline
    simp [hothers line hline]
  rw [firstFor?, hnone, Option.bind_none]

namespace Transaction

/-- A deletion by a privileged caller that may find nothing and does not: all lines of the store are
    records, and none of them has the key of the transaction. -/
structure Fruitless (t : Transaction) (contents : Option Bytes) : Prop where
  deletes : t.operation = .delete
  tolerated : t.settings.allowMissingDelete = true
  privileged : t.settings.privileged = true
  identity : Policy.validateField (text "username") t.identity = .ok ()
  realm : Policy.validateField (text "group") t.realm = .ok ()
  records : ∀ line ∈ Bytes.lines (contents.getD []),
    ∃ r, Record.parse line = some r ∧ r.key ≠ (t.identity, t.realm)

namespace Fruitless

variable {t : Transaction} {contents : Option Bytes} (hfruitless : t.Fruitless contents)

include hfruitless

theorem isLineFor_eq_false :
    ∀ line ∈ Bytes.lines (contents.getD []), Record.isLineFor t.identity t.realm line = false := by
  intro line hline
  obtain ⟨r, hparse, hkey⟩ := hfruitless.records line hline
  rw [Record.isLineFor, hparse, Option.any_some]
  exact Bool.eq_false_iff.2 fun hfor => hkey (Record.isFor_iff_key.1 hfor)

theorem found_eq_none : t.found contents = none :=
  Record.firstFor?_eq_none hfruitless.isLineFor_eq_false

/-- Every line survives, an unended last one as well. -/
theorem kept_eq : t.kept contents = contents.getD [] := by
  have hrecords : ∀ line ∈ Bytes.lines (contents.getD []), (Record.parse line).isSome := by
    intro line hline
    obtain ⟨r, hparse, -⟩ := hfruitless.records line hline
    rw [hparse]
    rfl
  rw [kept, Record.survivors_eq_self hrecords hfruitless.isLineFor_eq_false, Bytes.flatten_lines]

theorem admitted_eq : t.admitted = .ok () := by
  have hpermits : t.settings.permits t.operation t.identity = true := by
    rw [Settings.permits, hfruitless.privileged, Bool.true_or]
  simp only [admitted, hfruitless.identity, hfruitless.realm, if_pos hpermits]
  rfl

/-- No secret is asked for. -/
theorem secretsIn_eq (session : Session) : t.secretsIn session = .ok {} := by
  have hunasked : ¬(t.operation = .change ∧ t.settings.privileged = false) := by
    rintro ⟨hchange, -⟩
    cases hfruitless.deletes.symm.trans hchange
  rw [secretsIn, gatherSecrets_eq, if_neg hunasked, gatherNew, if_pos hfruitless.deletes]
  rfl

theorem checkMatched_eq (secrets : Secrets) : t.checkMatched secrets (t.found contents) = .ok () := by
  have hoptional : t.requiresMatch = false := by
    rw [requiresMatch, hfruitless.deletes, hfruitless.tolerated]
    rfl
  rw [hfruitless.found_eq_none, checkMatched, hoptional]
  rfl

/-- The new store has the octets of the old one. -/
theorem resultIn_eq (session : Session) :
    t.resultIn session contents = .ok (none, contents.getD []) := by
  have heffect : t.effect {} contents = .ok (none, t.kept contents) := by
    simp only [effect, hfruitless.checkMatched_eq]
    rfl
  simp only [resultIn, hfruitless.admitted_eq, hfruitless.secretsIn_eq]
  exact heffect.trans (by rw [hfruitless.kept_eq])

end Fruitless

/-- What a deletion that finds nothing leaves of the primary file, by what it reports. -/
structure LeavesStore (t : Transaction) (before after : FileSystem)
    (outcome : Except Failure Report) : Prop where
  /-- A store that is there keeps its octets. -/
  kept : ∀ octets, before.contents? t.settings.paths.primary = some octets →
    after.contents? t.settings.paths.primary = some octets
  /-- In place of a store that is not there, an empty one is made. -/
  made : Committed outcome → before.contents? t.settings.paths.primary = none →
    after.contents? t.settings.paths.primary = some []
  /-- Without a commit, the same thing lies at the path or nothing. -/
  untouched : ¬Committed outcome →
    after.contents? t.settings.paths.primary = before.contents? t.settings.paths.primary ∧
      after.entryAt? t.settings.paths.primary = before.entryAt? t.settings.paths.primary

theorem Fruitless.leavesStore {t : Transaction} {s s' : Scene} {tr : Trace}
    {outcome : Except Failure Report} {state progress : Progress} (hsound : s.world.files.Sound)
    (hfruitless : t.Fruitless (s.world.files.contents? t.settings.paths.primary))
    (hruns : (t.execute state).Runs .systemErrors s tr (outcome, progress) s') :
    t.LeavesStore s.world.files s'.world.files outcome := by
  obtain ⟨hupdated, huntouched⟩ := t.primary_of_execute hsound hruns
  have hcontents : Committed outcome → s'.world.files.contents? t.settings.paths.primary =
      some ((s.world.files.contents? t.settings.paths.primary).getD []) := by
    intro hcommitted
    obtain ⟨written, octets, hresult, hafter⟩ := hupdated hcommitted
    rw [hfruitless.resultIn_eq] at hresult
    cases hresult
    exact hafter
  refine ⟨fun octets hbefore => ?_, fun hcommitted hbefore => ?_, huntouched⟩
  · by_cases hcommitted : Committed outcome
    · rw [hcontents hcommitted, hbefore, Option.getD_some]
    · rw [(huntouched hcommitted).1, hbefore]
  · rw [hcontents hcommitted, hbefore, Option.getD_none]

/-- A deletion that finds nothing commits where the store is ready and no call fails. Whatever calls fail,
    it leaves the octets of a store as they were, and in place of none it leaves an empty one if it
    commits. -/
theorem leavesStore_of_fruitless (t : Transaction) {s : Scene} (hsound : s.world.files.Sound)
    (hfruitless : t.Fruitless (s.world.files.contents? t.settings.paths.primary)) :
    (∀ directory state, t.settings.paths.Ready directory s.world.files → s.session.faults = [] →
      Committed (s.run state t.execute).1.1) ∧
      ∀ state tr outcome progress s',
        (t.execute state).Runs .systemErrors s tr (outcome, progress) s' →
          t.LeavesStore s.world.files s'.world.files outcome := by
  refine ⟨fun directory state hready hfaults => ?_, fun _ _ _ _ _ => hfruitless.leavesStore hsound⟩
  rw [(settled_of_ready t state hsound hready hfaults).reported]
  exact committed_reportIn_iff.2 ⟨_, hfruitless.resultIn_eq s.session⟩

/-- A store of one record, in a line that is not ended. -/
def unendedScene : Scene where
  world := {
    files := {
      entries := [([[0x73, 0x72, 0x76]], .directory),
        ([[0x73, 0x72, 0x76], StorePaths.primaryOctets], .file 0)]
      files := [⟨[0x62, 0x6F, 0x3A, 0x73, 0x79, 0x73, 0x3A, 0x30], 0o600⟩]
      umask := 0o22 } }
  session := {}

theorem sound_unendedScene : unendedScene.world.files.Sound := by
  refine FileSystem.Sound.of_entries (fun there id hmem => ?_) (by decide)
  simp only [unendedScene, List.mem_cons, Prod.mk.injEq, reduceCtorEq, and_false, false_or,
    List.not_mem_nil, or_false, Entry.file.injEq] at hmem
  rw [hmem.2]
  exact Nat.zero_lt_one

theorem ready_unendedScene : sampleRemoval.settings.paths.Ready [[0x73, 0x72, 0x76]]
    unendedScene.world.files :=
  ⟨⟨rfl, rfl, rfl, rfl⟩, rfl, not_or.2 ⟨by decide, by decide⟩⟩

theorem fruitless_unendedScene : sampleRemoval.Fruitless
    (unendedScene.world.files.contents? sampleRemoval.settings.paths.primary) where
  deletes := rfl
  tolerated := rfl
  privileged := rfl
  identity := by decide
  realm := by decide
  records := by
    have hlines : Bytes.lines ((unendedScene.world.files.contents?
        sampleRemoval.settings.paths.primary).getD []) =
        [[0x62, 0x6F, 0x3A, 0x73, 0x79, 0x73, 0x3A, 0x30]] := by decide +kernel
    rw [hlines]
    intro line hline
    rw [List.mem_singleton.1 hline]
    exact ⟨⟨text "bo", text "sys", text "0"⟩, by decide +kernel, by decide +kernel⟩

/-- The removal commits on the store of another record, and leaves its octets as they were. -/
theorem unendedScene_leavesStore : ∃ tr outcome progress s',
    (sampleRemoval.execute {}).Runs .systemErrors unendedScene tr (outcome, progress) s' ∧
      Committed outcome ∧
      sampleRemoval.LeavesStore unendedScene.world.files s'.world.files outcome := by
  obtain ⟨hcommits, hleaves⟩ :=
    leavesStore_of_fruitless sampleRemoval sound_unendedScene fruitless_unendedScene
  have hcommitted := hcommits _ {} ready_unendedScene rfl
  obtain ⟨tr, hruns, -⟩ := unendedScene.runs_of_run .systemErrors {} sampleRemoval.execute rfl
  generalize unendedScene.run {} sampleRemoval.execute = result at hruns hcommitted
  obtain ⟨⟨outcome, progress⟩, s'⟩ := result
  exact ⟨tr, outcome, progress, s', hruns, hcommitted, hleaves _ _ _ _ _ hruns⟩

/-- In a directory without a store, the removal commits without finding anything, and leaves an empty
    file where there was none. -/
theorem emptyScene_not_left :
    sampleRemoval.Fruitless (emptyScene.world.files.contents? sampleRemoval.settings.paths.primary) ∧
      emptyScene.world.files.entryAt? sampleRemoval.settings.paths.primary = none ∧
      emptyScene.session.faults = [] ∧
      Committed (emptyScene.run {} sampleRemoval.execute).1.1 ∧
      (emptyScene.run {} sampleRemoval.execute).2.world.files.contents?
        sampleRemoval.settings.paths.primary = some [] := by
  refine ⟨⟨rfl, rfl, rfl, by decide, by decide, ?_⟩, by decide, rfl, by decide +kernel,
    by decide +kernel⟩
  intro line hline
  cases hline

end Transaction

end CredentialStore
