import CredentialStore.Proofs.Transaction.Generations

namespace CredentialStore

open CredentialStore.Action FileSystem StorePaths

/-- What calls can have made of the backup of a store. -/
inductive Backup
  /-- The old backup lies there. -/
  | kept
  | removed
  /-- The primary file was linked or copied. -/
  | made
  deriving DecidableEq, Repr

/-- What an event makes of the backup. -/
def Event.backup? : Event → Option Backup
  | ⟨.unlinkBackup _, .ok _, _⟩ => some .removed
  | ⟨.linkBackup _ _, .ok _, _⟩ => some .made
  | ⟨.copyBackup _ _, .ok _, _⟩ => some .made
  | _ => none

theorem Event.backup?_error (c : Call) (failure : Failure) (struck : Bool) :
    backup? ⟨c, .error failure, struck⟩ = none := by
  cases c <;> rfl

/-- Whether a call can change the backup. -/
def Call.OnBackup : Call → Prop
  | unlinkBackup _ | linkBackup _ _ | copyBackup _ _ => True
  | _ => False

theorem Event.backup?_eq_none {e : Event} (hcall : ¬e.call.OnBackup) : e.backup? = none := by
  obtain ⟨c, answer, struck⟩ := e
  cases c <;> first | exact absurd trivial hcall | rfl

theorem Call.LeavesFiles.not_onBackup {c : Call} (hleaves : c.LeavesFiles) : ¬c.OnBackup := by
  cases c <;> first | exact False.elim hleaves | exact id

theorem Call.Removes.not_onBackup {c : Call} {part : Log.Part} {staging : Text}
    (hremoves : c.Removes part staging) : ¬c.OnBackup := by
  cases c <;> first | exact False.elim hremoves | exact id

/-- What has become of the backup after an event. -/
def Backup.next (backup : Backup) (e : Event) : Backup := e.backup?.getD backup

/-- What has become of the backup after the calls of a trace: the last of them that changed it tells. -/
def Trace.backup (tr : Trace) : Backup := tr.foldl Backup.next .kept

/-- What lies at the backup path of a directory, against the files `before`. -/
def Backup.Lies (directory : Location) (before now : FileSystem) : Backup → Prop
  | .kept => now.fileAt? (backupAt directory) = before.fileAt? (backupAt directory)
  | .removed => now.entry? (backupAt directory) = none
  | .made => ∃ file, before.fileAt? (primaryAt directory) = some file ∧
      now.fileAt? (backupAt directory) = some file

/-- A path that has contents leads to a file. -/
theorem FileSystem.exists_file_of_contents? {fs : FileSystem} {path : Text} {octets : Bytes}
    (hcontents : fs.contents? path = some octets) :
    ∃ there id, fs.locate path = .ok there ∧ fs.entry? there = some (.file id) := by
  cases hlocate : fs.locate path with
  | error failure => simp [contents?, fileId?, entryAt?, hlocate] at hcontents
  | ok there =>
    rw [contents?_eq hlocate] at hcontents
    rcases hentry : fs.entry? there with _ | ⟨id | _⟩
    · simp [hentry] at hcontents
    · exact ⟨there, id, rfl, hentry⟩
    · simp [hentry] at hcontents

namespace Commit

/-- The files `now` of a store of which a commit has not installed the staging file, against those
    `before`. -/
structure Spares (directory : Location) (before now : FileSystem) (backup : Backup) : Prop where
  sound : now.Sound
  directories : ∀ there, now.entry? there = some .directory ↔ before.entry? there = some .directory
  primary : now.fileAt? (primaryAt directory) = before.fileAt? (primaryAt directory)
  lies : backup.Lies directory before now

variable {paths : StorePaths} {directory : Location} {before now now' : FileSystem} {backup : Backup}

namespace Spares

theorem refl (hsound : before.Sound) : Spares directory before before .kept :=
  ⟨hsound, fun _ => Iff.rfl, rfl, rfl⟩

theorem lies_congr (hspares : Spares directory before now backup)
    (hentry : now'.entry? (backupAt directory) = now.entry? (backupAt directory))
    (hfile : now'.fileAt? (backupAt directory) = now.fileAt? (backupAt directory)) :
    backup.Lies directory before now' := by
  have hlies := hspares.lies
  cases backup with
  | kept => exact hfile.trans hlies
  | removed => exact hentry.trans hlies
  | made =>
    obtain ⟨file, hprimary, hbackup⟩ := hlies
    exact ⟨file, hprimary, hfile.trans hbackup⟩

/-- A change that leaves the primary file alone, and after which it lies at the backup path as well. -/
theorem of_made (hspares : Spares directory before now backup) (hsound : now'.Sound)
    (hdirectories : ∀ there, now'.entry? there = some .directory ↔ now.entry? there = some .directory)
    (hkept : now'.fileAt? (primaryAt directory) = now.fileAt? (primaryAt directory)) {file : File}
    (hprimary : now.fileAt? (primaryAt directory) = some file)
    (hbackup : now'.fileAt? (backupAt directory) = some file) : Spares directory before now' .made where
  sound := hsound
  directories there := (hdirectories there).trans (hspares.directories there)
  primary := hkept.trans hspares.primary
  lies := ⟨file, hspares.primary.symm.trans hprimary, hbackup⟩

variable (hspares : Spares directory before now backup) (hlead : paths.LeadTo before directory)

include hspares hlead

theorem unlinkStaging (hunlink : now.unlink paths.staging = .ok now') :
    Spares directory before now' backup := by
  rw [unlink_of_locate (hlead.of_directory_iff hspares.directories).staging] at hunlink
  split at hunlink
  · cases hunlink
  · cases hunlink
  · rename_i id hentry
    cases hunlink
    have hchanged := changedOnly_unbind (stagingAt_ne_nil directory) hentry
    refine ⟨?_, fun there => (hchanged.directory there).trans (hspares.directories there), ?_, ?_⟩
    · exact hspares.sound.unbind (stagingAt_ne_nil directory) (by simp [hentry])
    · rw [hchanged.fileAt _ (by simp), hspares.primary]
    · exact hspares.lies_congr (hchanged.entry _ (by simp)) (hchanged.fileAt _ (by simp))

theorem unlinkBackup (hunlink : now.unlink paths.backup = .ok now') :
    Spares directory before now' .removed := by
  rw [unlink_of_locate (hlead.of_directory_iff hspares.directories).backup] at hunlink
  split at hunlink
  · cases hunlink
  · cases hunlink
  · rename_i id hentry
    cases hunlink
    have hchanged := changedOnly_unbind (backupAt_ne_nil directory) hentry
    refine ⟨?_, fun there => (hchanged.directory there).trans (hspares.directories there), ?_, ?_⟩
    · exact hspares.sound.unbind (backupAt_ne_nil directory) (by simp [hentry])
    · rw [hchanged.fileAt _ (by simp), hspares.primary]
    · exact (entry?_unbind now (backupAt_ne_nil directory) _).trans (if_pos rfl)

theorem linkBackup (hlink : now.link paths.primary paths.backup = .ok now') :
    Spares directory before now' .made := by
  have hnow := hlead.of_directory_iff hspares.directories
  rw [link_of_locate hnow.primary hnow.backup] at hlink
  split at hlink
  · cases hlink
  · cases hlink
  · cases hlink
  · rename_i id hprimary hnone
    cases hlink
    have hlt := hspares.sound.file_lt _ _ hprimary
    have hfree : now.entry? (backupAt directory) ≠ some .directory := by simp [hnone]
    have hchanged : ChangedOnly [backupAt directory] now (now.bind (backupAt directory) (.file id)) :=
      changedOnly_bind (backupAt_ne_nil directory) hfree
    have hprimaryAt : now.fileAt? (primaryAt directory) = some now.files[id] := by
      rw [fileAt?_of_file hprimary, file?, List.getElem?_eq_getElem hlt]
    refine hspares.of_made ?_ hchanged.directory (hchanged.fileAt _ (by simp)) hprimaryAt ?_
    · exact hspares.sound.bind (backupAt_ne_nil directory) (by simpa using hnow.isDirectory) hfree hlt
    · rw [fileAt?_of_file ((entry?_bind now (backupAt_ne_nil directory) _ _).trans (if_pos rfl)),
        file?_bind, file?, List.getElem?_eq_getElem hlt]

/-- The copy is a new file, or it replaces what the old backup holds, which is then no second name of the
    primary file. -/
theorem copyBackup (hfree : before.entry? (backupAt directory) ≠ some .directory)
    (hcopy : now.copy paths.primary paths.backup = .ok now') : Spares directory before now' .made := by
  have hnow := hlead.of_directory_iff hspares.directories
  have hfree : now.entry? (backupAt directory) ≠ some .directory :=
    fun hentry => hfree ((hspares.directories _).1 hentry)
  obtain ⟨id, hprimary, hmade⟩ := of_copy_ok hnow.primary hnow.backup hfree hcopy
  have hlt := hspares.sound.file_lt _ _ hprimary
  have hfile : now.file? id = some now.files[id] := List.getElem?_eq_getElem hlt
  have hprimaryAt : now.fileAt? (primaryAt directory) = some now.files[id] := by
    rw [fileAt?_of_file hprimary, hfile]
  rw [hfile, Option.getD_some] at hmade
  obtain ⟨hnone, rfl⟩ | ⟨other, hother, hover, rfl⟩ := hmade
  · have hchanged := changedOnly_bindNew hspares.sound (backupAt_ne_nil directory) hfree now.files[id]
    refine hspares.of_made ?_ hchanged.directory (hchanged.fileAt _ (by simp)) hprimaryAt ?_
    · exact hspares.sound.bindNew (backupAt_ne_nil directory) (by simpa using hnow.isDirectory) hfree _
    · rw [fileAt?_of_file ((entry?_bindNew now (backupAt_ne_nil directory) _ _).trans (if_pos rfl)),
        file?_bindNew_length]
  · have hlt' := hspares.sound.file_lt _ _ hover
    refine hspares.of_made (hspares.sound.change _ _) (fun _ => Iff.rfl) ?_ hprimaryAt ?_
    · refine fileAt?_congr rfl fun named hnamed => ?_
      cases hprimary.symm.trans hnamed
      rw [file?_change, if_neg hother]
    · rw [fileAt?_of_file ((entry?_change now other _ _).trans hover), file?_change, if_pos rfl, file?,
        List.getElem?_eq_getElem hlt', Option.map_some]

end Spares

theorem Spares.leaving {c : Call} {s : Scene} (hspares : Spares directory before s.world.files backup)
    (hleaves : c.LeavesFiles) :
    Spares directory before (s.perform c).2.world.files (backup.next ⟨c, (s.perform c).1, false⟩) := by
  rw [Backup.next, Event.backup?_eq_none hleaves.not_onBackup, hleaves.perform_eq, hleaves.files_answer]
  exact hspares

/-- An answered call of a commit, unless it installs the staging file. -/
theorem Spares.next {strikes : Strikes} {s s' : Scene} {e : Event} (hlead : paths.LeadTo before directory)
    (hfree : before.entry? (backupAt directory) ≠ some .directory)
    (hspares : Spares directory before s.world.files backup) (hallowed : Commits paths e.call)
    (hanswer : Scene.Answers strikes s e s') (hturn : e.turn? ≠ some .installed) :
    Spares directory before s'.world.files (backup.next e) := by
  cases hanswer with
  | struck =>
    rw [Backup.next, Event.backup?_error]
    exact hspares
  | performed c =>
    obtain hsteps | hremoves | ⟨_, rfl⟩ := hallowed
    · cases c with
      | unlinkBackup path =>
        obtain rfl : path = paths.backup := hsteps
        rcases hunlink : s.world.files.unlink paths.backup with failure | files <;>
          simp only [Scene.perform, World.answer, World.changing, hunlink]
        · exact hspares
        · exact hspares.unlinkBackup hlead hunlink
      | linkBackup primary backup =>
        obtain ⟨rfl, rfl⟩ : primary = paths.primary ∧ backup = paths.backup := hsteps
        rcases hlink : s.world.files.link paths.primary paths.backup with failure | files <;>
          simp only [Scene.perform, World.answer, World.changing, hlink]
        · exact hspares
        · exact hspares.linkBackup hlead hlink
      | copyBackup primary backup =>
        obtain ⟨rfl, rfl⟩ : primary = paths.primary ∧ backup = paths.backup := hsteps
        rcases hcopy : s.world.files.copy paths.primary paths.backup with failure | files <;>
          simp only [Scene.perform, World.answer, World.changing, hcopy]
        · exact hspares
        · exact hspares.copyBackup hlead hfree hcopy
      | install staging primary =>
        obtain ⟨rfl, rfl⟩ : staging = paths.staging ∧ primary = paths.primary := hsteps
        rcases hrename : s.world.files.rename paths.staging paths.primary with failure | files
        · simp only [Scene.perform, World.answer, World.changing, hrename]
          exact hspares
        · simp only [Scene.perform, World.answer, World.changing, hrename] at hturn
          exact absurd rfl hturn
      | log event => exact hspares.leaving trivial
      | _ => exact False.elim hsteps
    · cases c with
      | unlinkStaging path =>
        obtain rfl : path = paths.staging := hremoves
        rcases hunlink : s.world.files.unlink paths.staging with failure | files <;>
          simp only [Scene.perform, World.answer, World.changing, hunlink]
        · exact hspares
        · exact hspares.unlinkStaging hlead hunlink
      | log event => exact hspares.leaving trivial
      | _ => exact False.elim hremoves
    · exact hspares.leaving trivial

/-- The calls of a commit, as long as none of them installs the staging file. -/
theorem Spares.of_runs {strikes : Strikes} {α : Type} {p : Program α} {s s' : Scene} {tr : Trace} {value : α}
    (hlead : paths.LeadTo before directory) (hfree : before.entry? (backupAt directory) ≠ some .directory)
    (hspares : Spares directory before s.world.files backup) (huses : p.Uses (Commits paths))
    (hruns : p.Runs strikes s tr value s') (hinstalled : ¬tr.Installed) :
    Spares directory before s'.world.files (tr.foldl Backup.next backup) := by
  induction hruns generalizing backup with
  | done => exact hspares
  | @call _ _ _ e _ _ _ hanswer hrest ih =>
    have hturn : e.turn? ≠ some .installed := fun hturn => hinstalled ⟨e, List.mem_cons_self, hturn⟩
    refine ih (hspares.next hlead hfree huses.1 hanswer hturn) (huses.2 _) ?_
    rintro ⟨e', he', hturn'⟩
    exact hinstalled ⟨e', List.mem_cons_of_mem e he', hturn'⟩

section Failing

variable {σ : Type} {state state' : σ} {s s' : Scene} {tr : Trace}

theorem foldl_backup_of_calls (hcalls : ∀ e ∈ tr, ¬e.call.OnBackup) (backup : Backup) :
    tr.foldl Backup.next backup = backup := by
  induction tr generalizing backup with
  | nil => rfl
  | cons e rest ih =>
    have hnext : backup.next e = backup := by
      rw [Backup.next, Event.backup?_eq_none (hcalls e List.mem_cons_self), Option.getD_none]
    rw [List.foldl_cons, hnext]
    exact ih (fun e' he' => hcalls e' (List.mem_cons_of_mem e he')) backup

theorem backup_of_removeBackup_error {failure : Failure}
    (hruns : (removeBackup paths : Action σ Unit).Runs .foreign state s tr (.error failure) state' s') :
    tr.backup = .kept := by
  obtain ⟨_, hok, -⟩ | ⟨_, -, -, hask⟩ | ⟨cause, _, _, _, rest, rfl, hask, hmet⟩ := Runs.of_onSystemError hruns
  · cases hok
  · obtain ⟨-, struck, rfl, -⟩ := Runs.of_ask hask
    rfl
  · obtain ⟨-, struck, rfl, -⟩ := Runs.of_ask hask
    split at hmet
    · obtain ⟨rfl, -⟩ := Runs.of_pure hmet
      rfl
    · obtain ⟨rfl, -⟩ := Runs.of_throw hmet
      rfl

/-- Keeping the primary file begins with a link, which makes the backup or fails. -/
theorem linked_or_failed {outcome : Except Failure Bool}
    (hruns : (backUpPrimary paths : Action σ Bool).Runs .foreign state s tr outcome state' s') :
    (∀ backup : Backup, tr.foldl Backup.next backup = .made) ∨
      ∃ failure struck, ⟨.linkBackup paths.primary paths.backup, .error failure, struck⟩ ∈ tr := by
  obtain ⟨result, _, _, _, rest, rfl, hattempt, hmet⟩ | ⟨_, -, hattempt⟩ := hruns.of_bind
  · obtain ⟨_, hresult, hask⟩ := Runs.of_attempt hattempt
    cases hresult
    obtain ⟨-, struck, rfl, -⟩ := Runs.of_ask hask
    cases result with
    | ok _ =>
      obtain ⟨rfl, -⟩ := Runs.of_pure hmet
      exact .inl fun _ => rfl
    | error failure => exact .inr ⟨failure, struck, List.mem_cons_self⟩
  · obtain ⟨_, hresult, -⟩ := Runs.of_attempt hattempt
    cases hresult

theorem uses_installing (backedUp : Bool) :
    (do installStaging paths; pure backedUp : Action σ Bool).Uses (¬·.OnBackup) := by
  refine uses_bind (uses_onSystemError ?_ fun _ => uses_throw _) fun _ => uses_pure _
  exact uses_ask (c := .install paths.staging paths.primary) id

/-- Where nothing touches the backup after the primary file was to be kept, and no backup was made, the
    link failed. -/
theorem link_failed_of_later {before kept later : Trace} {outcome : Except Failure Bool}
    (hruns : (backUpPrimary paths : Action σ Bool).Runs .foreign state s kept outcome state' s')
    (hlater : ∀ e ∈ later, ¬e.call.OnBackup) (hremoved : Trace.backup (before ++ (kept ++ later)) = .removed) :
    ∃ failure struck, ⟨.linkBackup paths.primary paths.backup, .error failure, struck⟩ ∈
      before ++ (kept ++ later) := by
  obtain hmade | ⟨failure, struck, hfailed⟩ := linked_or_failed hruns
  · rw [Trace.backup, List.foldl_append, List.foldl_append, hmade, foldl_backup_of_calls hlater] at hremoved
    cases hremoved
  · exact ⟨failure, struck, by simp [hfailed]⟩

/-- A backup that is removed and not made again was not made because the link failed. -/
theorem link_failed_of_removed {failure : Failure}
    (hruns : (commit paths : Action σ Unit).Runs .foreign state s tr (.error failure) state' s')
    (hremoved : tr.backup = .removed) :
    ∃ failure struck, ⟨.linkBackup paths.primary paths.backup, .error failure, struck⟩ ∈ tr := by
  obtain ⟨_, _, _, hok, -⟩ | ⟨_, _, _, _, _, rest, -, rfl, hsteps, hdiscard⟩ := of_commit hruns
  · cases hok
  · have hrest : ∀ e ∈ rest, ¬e.call.OnBackup :=
      fun e he => (hdiscard.calls (uses_discard _) e he).not_onBackup
    obtain ⟨_, _, _, before, _, rfl, hremove, hnext⟩ | ⟨_, -, hremove⟩ := hsteps.of_bind
    · rw [List.append_assoc] at hremoved ⊢
      obtain ⟨_, _, _, kept, _, rfl, hback, hlast⟩ | ⟨_, -, hback⟩ := Runs.of_bind hnext
      · rw [List.append_assoc] at hremoved ⊢
        refine link_failed_of_later hback (fun e he => ?_) hremoved
        rcases List.mem_append.1 he with he | he
        · exact hlast.calls (uses_installing _) e he
        · exact hrest e he
      · exact link_failed_of_later hback hrest hremoved
    · rw [Trace.backup, List.foldl_append, ← Trace.backup, backup_of_removeBackup_error hremove,
        foldl_backup_of_calls hrest] at hremoved
      cases hremoved

end Failing

/-- What a failed commit leaves of a store that has a backup. -/
structure Aborted (paths : StorePaths) (before after : FileSystem) (tr : Trace) : Prop where
  primary : after.contents? paths.primary = before.contents? paths.primary
  /-- A backup that was not touched holds what it held. -/
  kept : tr.backup = .kept → after.contents? paths.backup = before.contents? paths.backup
  /-- A new backup holds what the primary file holds. -/
  made : tr.backup = .made → ∃ octets, before.contents? paths.primary = some octets ∧
    after.contents? paths.backup = some octets
  /-- A backup that was removed without a new one being made is lost, because the primary file was not
      linked. -/
  removed : tr.backup = .removed → after.entryAt? paths.backup = none ∧
    ∃ failure struck, ⟨.linkBackup paths.primary paths.backup, .error failure, struck⟩ ∈ tr

theorem Spares.aborted {fs fs' : FileSystem} {tr : Trace} (hsound : fs.Sound) (hlead : paths.LeadTo fs directory)
    (hspares : Spares directory fs fs' tr.backup)
    (hlinked : tr.backup = .removed →
      ∃ failure struck, ⟨.linkBackup paths.primary paths.backup, .error failure, struck⟩ ∈ tr) :
    Aborted paths fs fs' tr := by
  have hlead' := hlead.of_directory_iff hspares.directories
  have hlies := hspares.lies
  refine ⟨?_, fun hkept => ?_, fun hmade => ?_, fun hremoved => ⟨?_, hlinked hremoved⟩⟩
  · rw [contents?_of_locate hspares.sound hlead'.primary, contents?_of_locate hsound hlead.primary,
      hspares.primary]
  · rw [hkept] at hlies
    rw [contents?_of_locate hspares.sound hlead'.backup, contents?_of_locate hsound hlead.backup]
    exact congrArg _ hlies
  · rw [hmade] at hlies
    obtain ⟨file, hprimary, hbackup⟩ := hlies
    refine ⟨file.data, ?_, ?_⟩
    · rw [contents?_of_locate hsound hlead.primary, hprimary, Option.map_some]
    · rw [contents?_of_locate hspares.sound hlead'.backup, hbackup, Option.map_some]
  · rw [hremoved] at hlies
    exact (entryAt?_of_locate hlead'.backup).trans hlies

/-- Whatever fails in a commit, on a store with a backup: a commit that fails leaves the primary file as it
    was, and at the backup path the old backup or what the primary file holds, unless the old backup was
    removed and the link to the primary file failed. -/
theorem aborted_of_commit {root : Text} {σ : Type} {state state' : σ} {s s' : Scene} {tr : Trace}
    {failure : Failure} {old : Bytes} (hsound : s.world.files.Sound)
    (hbackup : s.world.files.contents? (locate root).backup = some old)
    (hruns : (commit (locate root) : Action σ Unit).Runs .foreign state s tr (.error failure) state' s') :
    Aborted (locate root) s.world.files s'.world.files tr := by
  obtain ⟨there, id, hlocate, hentry⟩ := exists_file_of_contents? hbackup
  obtain ⟨directory, hlead, rfl⟩ := leadTo_of_locate_backup hlocate
  have hinstalled : ¬tr.Installed := fun hinstalled => by
    cases (installed_of_commit hruns).2 hinstalled
  have hspares := (Spares.refl hsound).of_runs hlead (by simp [hentry]) (uses_commit state) hruns hinstalled
  exact hspares.aborted hsound hlead (link_failed_of_removed hruns)

/-- A store with all three files, where the staging file cannot be installed. -/
def uninstallableScene : Scene :=
  { Transaction.stagedScene with session.faults := [(.install, { failure := .numbered .inputOutput })] }

/-- The primary file was linked before the commit failed. -/
theorem uninstallableScene_aborted : ∃ tr failure s',
    (commit (locate (text "/srv")) : Action Unit Unit).Runs .foreign () Transaction.stagedScene tr
      (.error failure) () s' ∧ tr.backup = .made ∧
      Aborted (locate (text "/srv")) Transaction.stagedScene.world.files s'.world.files tr := by
  have hadmits : Strikes.foreign.Admits uninstallableScene.session.faults :=
    Strikes.admits_singleton fun fs c hpoint => ⟨by rw [hpoint]; rfl, fun _ h => by cases h⟩
  have hruns := uninstallableScene.runs_trace () (commit (locate (text "/srv"))) hadmits
  have hfailed : (uninstallableScene.run () (commit (locate (text "/srv")))).1.1 =
      .error (failed (text "failed to rename password file") (.numbered .inputOutput)) := by decide +kernel
  have hmade : (uninstallableScene.trace () (commit (locate (text "/srv")))).backup = .made := by
    decide +kernel
  have hbackup : Transaction.stagedScene.world.files.contents? (locate (text "/srv")).backup =
      some [0x62, 0x0A] := by decide +kernel
  generalize uninstallableScene.run () (commit (locate (text "/srv"))) = result at hruns hfailed
  generalize uninstallableScene.trace () (commit (locate (text "/srv"))) = tr at hruns hmade
  obtain ⟨⟨_, _⟩, s'⟩ := result
  cases hfailed
  exact ⟨tr, _, s'.faultless, hruns, hmade,
    aborted_of_commit Transaction.staged_stagedScene.sound hbackup hruns⟩

/-- The same store, where links fail. -/
def linklessScene : Scene :=
  { Transaction.stagedScene with session.faults := [(.linkBackup, { failure := .numbered .inputOutput })] }

/-- Where the link fails, the old backup is lost: it was removed, and nothing lies in its place. -/
theorem linklessScene_loses_backup : ∃ tr s',
    (commit (locate (text "/srv")) : Action Unit Unit).Runs .systemErrors () Transaction.stagedScene tr
      (.error (cannotBackUp (.numbered .inputOutput))) () s' ∧
      Transaction.stagedScene.world.files.contents? (locate (text "/srv")).backup = some [0x62, 0x0A] ∧
      Transaction.stagedScene.world.files.contents? (locate (text "/srv")).primary = some [0x61, 0x0A] ∧
      s'.world.files.contents? (locate (text "/srv")).primary = some [0x61, 0x0A] ∧
      s'.world.files.entryAt? (locate (text "/srv")).backup = none := by
  have hadmits : Strikes.systemErrors.Admits linklessScene.session.faults := by
    refine Strikes.admits_singleton fun fs c hpoint => ⟨by rw [hpoint]; rfl, _, rfl, fun hmissing => ?_⟩
    cases hmissing
  have hruns := linklessScene.runs_trace () (commit (locate (text "/srv"))) hadmits
  have hfailed : (linklessScene.run () (commit (locate (text "/srv")))).1.1 =
      .error (cannotBackUp (.numbered .inputOutput)) := by decide +kernel
  have hprimary : (linklessScene.run () (commit (locate (text "/srv")))).2.world.files.contents?
      (locate (text "/srv")).primary = some [0x61, 0x0A] := by decide +kernel
  have hbackup : (linklessScene.run () (commit (locate (text "/srv")))).2.world.files.entryAt?
      (locate (text "/srv")).backup = none := by decide +kernel
  generalize linklessScene.run () (commit (locate (text "/srv"))) = result at hruns hfailed hprimary hbackup
  obtain ⟨⟨_, _⟩, s'⟩ := result
  cases hfailed
  exact ⟨_, s'.faultless, hruns, by decide +kernel, by decide +kernel, hprimary, hbackup⟩

end Commit

end CredentialStore
