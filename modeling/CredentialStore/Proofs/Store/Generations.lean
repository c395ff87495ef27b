import CredentialStore.Proofs.Run.Telling
import CredentialStore.Proofs.Store.Holding

namespace CredentialStore

open CredentialStore.Action FileSystem StorePaths

/-- Failures of any kind at any calls on the files; that something is missing is reported only where nothing
    lies. -/
def Strikes.faithful : Strikes := fun fs c failure =>
  foreign fs c failure ∧
    (failure = .numbered .notFound → ∀ path, c.path? = some path → fs.entryAt? path = none)

theorem Strikes.honest_faithful : faithful.Honest where
  onFiles _ _ _ hstrikes := hstrikes.1.1
  missing _ _ hstrikes := hstrikes.2 rfl

/-- What is made of a change of files that is asked for: it is made, or it fails and changes nothing; that a path
    is missing is reported only where nothing lies at it. -/
def Changed (change : Except Failure FileSystem) (path : Text) (before after : FileSystem)
    (outcome : Except Failure Unit) : Prop :=
  (outcome = .ok () ∧ change = .ok after) ∨
    ∃ failure, outcome = .error failure ∧ after = before ∧
      (failure = .numbered .notFound → before.entryAt? path = none)

/-- An answer to a call that changes the files. -/
theorem Scene.Answers.changed {strikes : Strikes} (hhonest : strikes.Honest) {s s' : Scene} {c : Call}
    {path : Text} {answer : c.Answer} {struck : Bool} (change : FileSystem → Except Failure FileSystem)
    (reply : c.Answer → Except Failure Unit) (hreply : ∀ failure, reply (.error failure) = .error failure)
    (hperform : reply (s.perform c).1 = (s.world.changing (change s.world.files)).1)
    (hfiles : (s.perform c).2.world = (s.world.changing (change s.world.files)).2) (hpath : c.path? = some path)
    (hmissing : change s.world.files = .error (.numbered .notFound) → s.world.files.entryAt? path = none)
    (hanswer : Scene.Answers strikes s ⟨c, answer, struck⟩ s') :
    Changed (change s.world.files) path s.world.files s'.world.files (reply answer) := by
  cases hanswer with
  | @struck _ failure hstrikes =>
    refine .inr ⟨failure, hreply failure, rfl, ?_⟩
    rintro rfl
    exact hhonest.missing _ _ hstrikes _ hpath
  | performed =>
    rw [hperform, hfiles]
    cases hchange : change s.world.files with
    | ok fs => exact .inl ⟨rfl, rfl⟩
    | error failure =>
      refine .inr ⟨failure, rfl, rfl, ?_⟩
      rintro rfl
      exact hmissing hchange

theorem Scene.Answers.files_of_leaving {strikes : Strikes} {s s' : Scene} {c : Call} {answer : c.Answer}
    {struck : Bool} (hleaves : c.LeavesFiles) (hanswer : Scene.Answers strikes s ⟨c, answer, struck⟩ s') :
    s'.world.files = s.world.files := by
  cases hanswer with
  | struck => rfl
  | performed => rw [hleaves.perform_eq, hleaves.files_answer]

theorem Action.files_of_note {strikes : Strikes} {σ : Type} {state state' : σ} {s s' : Scene} {tr : Trace}
    {event : Log.Event} {outcome : Except Failure Unit}
    (hruns : (Action.note event : Action σ Unit).Runs strikes state s tr outcome state' s') :
    s'.world.files = s.world.files := by
  obtain ⟨-, struck, -, hanswer⟩ := Runs.of_ask hruns
  exact hanswer.files_of_leaving (c := .log event) trivial

namespace FileSystem

/-- Whether two file systems have the same directories and the same files at the same places, whatever the
    numbers of the files. -/
structure Alike (fs fs' : FileSystem) : Prop where
  directory : ∀ there, fs.entry? there = some .directory ↔ fs'.entry? there = some .directory
  nothing : ∀ there, fs.entry? there = none ↔ fs'.entry? there = none
  fileAt : ∀ there, fs.fileAt? there = fs'.fileAt? there

theorem Sound.entry?_eq_none_iff {fs : FileSystem} (hsound : fs.Sound) {there : Location} :
    fs.entry? there = none ↔ fs.entry? there ≠ some .directory ∧ fs.fileAt? there = none := by
  rcases hentry : fs.entry? there with _ | ⟨id | _⟩
  · simp [fileAt?, hentry]
  · have hlt := hsound.file_lt there id hentry
    simp [fileAt?_of_file hentry, file?, hlt]
  · simp

end FileSystem

namespace Commit

variable {strikes : Strikes} {paths : StorePaths} {σ : Type} {state state' : σ} {directory : Location}
  {before after : FileSystem} {tr : Trace} {s s' : Scene}

/-- The files of a store in a directory, with a staging file to commit. -/
structure Staged (paths : StorePaths) (directory : Location) (fs : FileSystem) : Prop where
  sound : fs.Sound
  lead : paths.LeadTo fs directory
  staging : ∃ file, fs.entry? (stagingAt directory) = some (.file file)

/-- What a commit makes of the files of a store. -/
structure Replaces (directory : Location) (before after : FileSystem) : Prop where
  sound : after.Sound
  changed : ChangedOnly [primaryAt directory, backupAt directory, stagingAt directory] before after
  primary : after.fileAt? (primaryAt directory) = before.fileAt? (stagingAt directory)
  backup : after.fileAt? (backupAt directory) = before.fileAt? (primaryAt directory)
  no_backup : before.entry? (primaryAt directory) = none → after.entry? (backupAt directory) = none
  /-- The staging file is gone, unless it was the primary file under another name: moving a file over itself
      does nothing. -/
  staging : before.entry? (primaryAt directory) ≠ before.entry? (stagingAt directory) →
    after.entry? (stagingAt directory) = none
  same : before.entry? (primaryAt directory) = before.entry? (stagingAt directory) →
    after.fileAt? (stagingAt directory) = before.fileAt? (stagingAt directory)

/-- What is made of the files does not depend on how it is made. -/
theorem Replaces.alike {after' : FileSystem} (hafter : Replaces directory before after)
    (hafter' : Replaces directory before after') : after.Alike after' := by
  have hdirectory : ∀ there, after.entry? there = some .directory ↔ after'.entry? there = some .directory :=
    fun there => (hafter.changed.directory there).trans (hafter'.changed.directory there).symm
  have hfileAt : ∀ there, after.fileAt? there = after'.fileAt? there := by
    intro there
    by_cases hprimary : there = primaryAt directory
    · rw [hprimary, hafter.primary, hafter'.primary]
    by_cases hbackup : there = backupAt directory
    · rw [hbackup, hafter.backup, hafter'.backup]
    by_cases hstaging : there = stagingAt directory
    · subst hstaging
      by_cases hsame : before.entry? (primaryAt directory) = before.entry? (stagingAt directory)
      · rw [hafter.same hsame, hafter'.same hsame]
      · rw [fileAt?, fileAt?, hafter.staging hsame, hafter'.staging hsame]
    have helsewhere : there ∉ [primaryAt directory, backupAt directory, stagingAt directory] := by
      simp [hprimary, hbackup, hstaging]
    rw [hafter.changed.fileAt there helsewhere, hafter'.changed.fileAt there helsewhere]
  refine ⟨hdirectory, fun there => ?_, hfileAt⟩
  rw [hafter.sound.entry?_eq_none_iff, hafter'.sound.entry?_eq_none_iff, hfileAt there, ne_eq, ne_eq,
    hdirectory there]

/-- The primary file as it was lies at the backup path as well, and nothing else changed. -/
structure BackedUp (directory : Location) (before after : FileSystem) : Prop where
  sound : after.Sound
  changed : ChangedOnly [backupAt directory] before after
  backup : after.fileAt? (backupAt directory) = before.fileAt? (primaryAt directory)
  no_backup : before.entry? (primaryAt directory) = none → after.entry? (backupAt directory) = none

/-- The staging file lies at the path of the primary file, and nothing else changed. -/
structure Installs (directory : Location) (before after : FileSystem) : Prop where
  sound : after.Sound
  changed : ChangedOnly [stagingAt directory, primaryAt directory] before after
  primary : after.fileAt? (primaryAt directory) = before.fileAt? (stagingAt directory)
  gone : before.entry? (primaryAt directory) ≠ before.entry? (stagingAt directory) →
    after.entry? (stagingAt directory) = none
  same : before.entry? (primaryAt directory) = before.entry? (stagingAt directory) → after = before

/-- The steps of a commit, one after another. -/
theorem Replaces.of_steps {cleared backedUp : FileSystem}
    (hcleared : ChangedOnly [backupAt directory] before cleared) (hbacked : BackedUp directory cleared backedUp)
    (hinstalled : Installs directory backedUp after) : Replaces directory before after := by
  have hprimary : cleared.entry? (primaryAt directory) = before.entry? (primaryAt directory) :=
    hcleared.entry _ (by simp)
  have hkept := hcleared.trans hbacked.changed
  have hprimary' : backedUp.entry? (primaryAt directory) = before.entry? (primaryAt directory) :=
    hkept.entry _ (by simp)
  have hstaging : backedUp.entry? (stagingAt directory) = before.entry? (stagingAt directory) :=
    hkept.entry _ (by simp [(backupAt_ne_stagingAt directory).symm])
  have hstagingAt : backedUp.fileAt? (stagingAt directory) = before.fileAt? (stagingAt directory) :=
    hkept.fileAt _ (by simp [(backupAt_ne_stagingAt directory).symm])
  have hbackup : backupAt directory ∉ [stagingAt directory, primaryAt directory] := by
    simp [(primaryAt_ne_backupAt directory).symm]
  refine ⟨hinstalled.sound, ?_, ?_, ?_, fun hmissing => ?_, fun hother => ?_, fun hsame => ?_⟩
  · exact (hkept.mono (by simp)).trans (hinstalled.changed.mono (by simp))
  · rw [hinstalled.primary, hstagingAt]
  · rw [hinstalled.changed.fileAt _ hbackup, hbacked.backup, hcleared.fileAt _ (by simp)]
  · rw [hinstalled.changed.entry _ hbackup]
    exact hbacked.no_backup (hprimary.trans hmissing)
  · exact hinstalled.gone (by rwa [hprimary', hstaging])
  · rw [hinstalled.same (by rwa [hprimary', hstaging]), hstagingAt]

theorem Installs.of_rename {file : FileId} (hsound : before.Sound) (hlead : paths.LeadTo before directory)
    (hentry : before.entry? (stagingAt directory) = some (.file file))
    (hrename : before.rename paths.staging paths.primary = .ok after) : Installs directory before after := by
  have hne := Ne.symm (primaryAt_ne_stagingAt directory)
  have hmoved : before.entry? (primaryAt directory) ≠ some .directory →
      before.entry? (primaryAt directory) ≠ some (.file file) →
      Installs directory before (before.move (stagingAt directory) (primaryAt directory)) := by
    intro hover hother
    have hentries := entry?_move hsound (stagingAt_ne_nil directory) (primaryAt_ne_nil directory) hne
      (by simp [hentry])
    refine ⟨?_, ?_, ?_, fun _ => ?_, fun hsame => absurd (hsame.trans hentry) hother⟩
    · exact hsound.move (stagingAt_ne_nil directory) (primaryAt_ne_nil directory) hne hentry hover
        (by simpa using hlead.isDirectory)
    · exact changedOnly_move hsound (stagingAt_ne_nil directory) (primaryAt_ne_nil directory) hne hentry hover
    · rw [fileAt?_of_file (by rw [hentries, if_pos rfl, hentry]), fileAt?_of_file hentry, file?_move]
    · rw [hentries, if_neg hne, if_pos rfl]
  rw [rename_of_locate hlead.staging hlead.primary hentry] at hrename
  split at hrename
  · rename_i hprimary
    cases hrename
    exact hmoved (by simp [hprimary]) (by simp [hprimary])
  · cases hrename
  · rename_i other hprimary
    by_cases hsame : file = other
    · rw [if_pos hsame] at hrename
      subst hsame
      cases hrename
      have hequal := hprimary.trans hentry.symm
      refine ⟨hsound, .refl _, ?_, fun hother => absurd hequal hother, fun _ => rfl⟩
      rw [fileAt?_of_file hprimary, fileAt?_of_file hentry]
    · rw [if_neg hsame] at hrename
      cases hrename
      exact hmoved (by simp [hprimary]) (by simpa [hprimary] using Ne.symm hsame)

section Steps

variable (hsound : before.Sound) (hlead : paths.LeadTo before directory)
  (hnone : before.entry? (backupAt directory) = none)

include hsound hnone

theorem BackedUp.of_missing (hprimary : before.entry? (primaryAt directory) = none) :
    BackedUp directory before before where
  sound := hsound
  changed := .refl _
  backup := by rw [fileAt?, fileAt?, hnone, hprimary]
  no_backup _ := hnone

include hlead

theorem BackedUp.of_link (hlink : before.link paths.primary paths.backup = .ok after) :
    BackedUp directory before after := by
  rw [link_of_locate hlead.primary hlead.backup] at hlink
  split at hlink
  · cases hlink
  · cases hlink
  · cases hlink
  · rename_i id hprimary _
    cases hlink
    have hfree : before.entry? (backupAt directory) ≠ some .directory := by simp [hnone]
    refine ⟨?_, changedOnly_bind (backupAt_ne_nil directory) hfree, ?_, fun hmissing => ?_⟩
    · exact hsound.bind (backupAt_ne_nil directory) (by simpa using hlead.isDirectory) hfree
        (hsound.file_lt _ _ hprimary)
    · rw [fileAt?_of_file (by rw [entry?_bind before (backupAt_ne_nil directory), if_pos rfl]),
        fileAt?_of_file hprimary, file?_bind]
    · cases hprimary.symm.trans hmissing

theorem BackedUp.of_copy (hcopy : before.copy paths.primary paths.backup = .ok after) :
    BackedUp directory before after := by
  rw [copy_of_locate hlead.primary hlead.backup hnone] at hcopy
  split at hcopy
  · cases hcopy
  · cases hcopy
  · rename_i id hprimary
    cases hcopy
    have hfree : before.entry? (backupAt directory) ≠ some .directory := by simp [hnone]
    have hlt := hsound.file_lt _ _ hprimary
    refine ⟨?_, changedOnly_bindNew hsound (backupAt_ne_nil directory) hfree _, ?_, fun hmissing => ?_⟩
    · exact hsound.bindNew (backupAt_ne_nil directory) (by simpa using hlead.isDirectory) hfree _
    · rw [fileAt?_of_file (by rw [entry?_bindNew before (backupAt_ne_nil directory), if_pos rfl]),
        fileAt?_of_file hprimary, file?_bindNew_length]
      simp [file?, hlt]
    · cases hprimary.symm.trans hmissing

end Steps

section Runs

variable (hhonest : strikes.Honest) (hsound : s.world.files.Sound)
  (hlead : paths.LeadTo s.world.files directory)

include hhonest hlead

theorem changed_of_unlinkBackup {outcome : Except Failure Unit}
    (hask : (Action.ask (.unlinkBackup paths.backup) : Action σ Unit).Runs strikes state s tr outcome state' s') :
    Changed (s.world.files.unlink paths.backup) paths.backup s.world.files s'.world.files outcome := by
  obtain ⟨-, struck, -, hanswer⟩ := Runs.of_ask hask
  refine hanswer.changed (c := .unlinkBackup paths.backup) hhonest (·.unlink paths.backup) (fun a => a)
    (fun _ => rfl) rfl rfl rfl fun herror => ?_
  rw [unlink_of_locate hlead.backup] at herror
  rw [entryAt?_of_locate hlead.backup]
  split at herror
  · assumption
  · cases herror
  · cases herror

theorem changed_of_linkBackup {outcome : Except Failure Unit}
    (hask : (Action.ask (.linkBackup paths.primary paths.backup) : Action σ Unit).Runs strikes state s tr outcome
      state' s') :
    Changed (s.world.files.link paths.primary paths.backup) paths.primary s.world.files s'.world.files
      outcome := by
  obtain ⟨-, struck, -, hanswer⟩ := Runs.of_ask hask
  refine hanswer.changed (c := .linkBackup paths.primary paths.backup) hhonest
    (·.link paths.primary paths.backup) (fun a => a) (fun _ => rfl) rfl rfl rfl fun herror => ?_
  rw [link_of_locate hlead.primary hlead.backup] at herror
  rw [entryAt?_of_locate hlead.primary]
  split at herror
  · assumption
  · cases herror
  · cases herror
  · cases herror

theorem changed_of_copyBackup (hnone : s.world.files.entry? (backupAt directory) = none)
    {outcome : Except Failure Unit}
    (hask : (Action.ask (.copyBackup paths.primary paths.backup) : Action σ Unit).Runs strikes state s tr outcome
      state' s') :
    Changed (s.world.files.copy paths.primary paths.backup) paths.primary s.world.files s'.world.files
      outcome := by
  obtain ⟨-, struck, -, hanswer⟩ := Runs.of_ask hask
  refine hanswer.changed (c := .copyBackup paths.primary paths.backup) hhonest
    (·.copy paths.primary paths.backup) (fun a => a) (fun _ => rfl) rfl rfl rfl fun herror => ?_
  rw [copy_of_locate hlead.primary hlead.backup hnone] at herror
  rw [entryAt?_of_locate hlead.primary]
  split at herror
  · assumption
  · cases herror
  · cases herror

theorem changed_of_install {file : FileId}
    (hentry : s.world.files.entry? (stagingAt directory) = some (.file file)) {outcome : Except Failure Unit}
    (hask : (Action.ask (.install paths.staging paths.primary) : Action σ Unit).Runs strikes state s tr outcome
      state' s') :
    Changed (s.world.files.rename paths.staging paths.primary) paths.staging s.world.files s'.world.files
      outcome := by
  obtain ⟨-, struck, -, hanswer⟩ := Runs.of_ask hask
  refine hanswer.changed (c := .install paths.staging paths.primary) hhonest
    (·.rename paths.staging paths.primary) (fun a => a) (fun _ => rfl) rfl rfl rfl fun herror => ?_
  rw [rename_of_locate hlead.staging hlead.primary hentry] at herror
  split at herror <;> cases herror

include hsound

/-- The backup path is cleared: its file is removed, or there is none. -/
theorem of_removeBackup
    (hruns : (removeBackup paths : Action σ Unit).Runs strikes state s tr (.ok ()) state' s') :
    s'.world.files.Sound ∧ ChangedOnly [backupAt directory] s.world.files s'.world.files ∧
      s'.world.files.entry? (backupAt directory) = none := by
  obtain hask | ⟨cause, _, s₁, _, _, -, hask, hmet⟩ := Runs.of_onSystemError_ok hruns
  · obtain ⟨-, hunlinked⟩ | ⟨failure, hfailed, -⟩ := changed_of_unlinkBackup hhonest hlead hask
    · rw [unlink_of_locate hlead.backup] at hunlinked
      split at hunlinked
      · cases hunlinked
      · cases hunlinked
      · rename_i id hentry
        rw [← Except.ok.inj hunlinked]
        refine ⟨?_, changedOnly_unbind (backupAt_ne_nil directory) hentry, ?_⟩
        · exact hsound.unbind (backupAt_ne_nil directory) (by simp [hentry])
        · rw [entry?_unbind _ (backupAt_ne_nil directory), if_pos rfl]
    · cases hfailed
  · obtain ⟨hok, -⟩ | ⟨failure, hfailed, hfiles, hmissing⟩ := changed_of_unlinkBackup hhonest hlead hask
    · cases hok
    · cases hfailed
      split at hmet
      · obtain ⟨-, -, -, rfl⟩ := Runs.of_pure hmet
        rw [hfiles]
        exact ⟨hsound, .refl _, (entryAt?_of_locate hlead.backup).symm.trans (hmissing rfl)⟩
      · obtain ⟨-, hok, -⟩ := Runs.of_throw hmet
        cases hok

variable (hnone : s.world.files.entry? (backupAt directory) = none)

include hnone

/-- A copy to the backup path, where nothing lies, backs the primary file up. -/
theorem of_copyPrimary {backedUp : Bool}
    (hruns : (copyPrimary paths : Action σ Bool).Runs strikes state s tr (.ok backedUp) state' s') :
    BackedUp directory s.world.files s'.world.files := by
  obtain hcopy | ⟨cause, _, s₁, _, _, -, hcopy, hmet⟩ := Runs.of_onSystemError_ok hruns
  · obtain ⟨_, _, _, _, _, -, hask, hpure⟩ := hcopy.of_bind_ok
    obtain ⟨-, -, -, rfl⟩ := Runs.of_pure hpure
    obtain ⟨-, hcopied⟩ | ⟨failure, hfailed, -⟩ := changed_of_copyBackup hhonest hlead hnone hask
    · exact .of_copy hsound hlead hnone hcopied
    · cases hfailed
  · obtain ⟨_, _, _, _, _, -, -, hpure⟩ | ⟨_, hfailed, hask⟩ := hcopy.of_bind
    · obtain ⟨-, hok, -⟩ := Runs.of_pure hpure
      cases hok
    cases hfailed
    obtain ⟨hok, -⟩ | ⟨failure, hfailed, hfiles, hmissing⟩ := changed_of_copyBackup hhonest hlead hnone hask
    · cases hok
    cases hfailed
    split at hmet
    · obtain ⟨-, -, -, rfl⟩ := Runs.of_pure hmet
      rw [hfiles]
      exact .of_missing hsound hnone ((entryAt?_of_locate hlead.primary).symm.trans (hmissing rfl))
    · obtain ⟨-, hok, -⟩ := Runs.of_throw hmet
      cases hok

/-- A link backs the primary file up, and so does a copy where links cannot be made. -/
theorem of_backUpPrimary {backedUp : Bool}
    (hruns : (backUpPrimary paths : Action σ Bool).Runs strikes state s tr (.ok backedUp) state' s') :
    BackedUp directory s.world.files s'.world.files := by
  obtain ⟨result, _, s₁, _, _, -, hattempt, hmet⟩ := hruns.of_bind_ok
  obtain ⟨_, hresult, hask⟩ := Runs.of_attempt hattempt
  cases hresult
  obtain ⟨rfl, hlinked⟩ | ⟨failure, rfl, hfiles, hmissing⟩ := changed_of_linkBackup hhonest hlead hask
  · obtain ⟨-, -, -, rfl⟩ := Runs.of_pure hmet
    exact .of_link hsound hlead hnone hlinked
  · split at hmet
    · contradiction
    · rename_i hfailed
      cases hfailed
      obtain ⟨-, -, -, rfl⟩ := Runs.of_pure hmet
      rw [hfiles]
      exact .of_missing hsound hnone ((entryAt?_of_locate hlead.primary).symm.trans (hmissing rfl))
    · split at hmet
      · obtain ⟨_, _, s₂, _, _, -, hnote, hcopy⟩ := Runs.of_bind_ok hmet
        have hnoted := hfiles ▸ files_of_note hnote
        rw [← hnoted] at hsound hlead hnone ⊢
        exact of_copyPrimary hhonest hsound hlead hnone hcopy
      · obtain ⟨-, hok, -⟩ := Runs.of_throw hmet
        cases hok
    · obtain ⟨-, hok, -⟩ := Runs.of_throw hmet
      cases hok

omit hnone

/-- The staging file takes the place of the primary file. -/
theorem of_installStaging {file : FileId}
    (hentry : s.world.files.entry? (stagingAt directory) = some (.file file))
    (hruns : (installStaging paths : Action σ Unit).Runs strikes state s tr (.ok ()) state' s') :
    Installs directory s.world.files s'.world.files := by
  obtain hask | ⟨_, _, _, _, _, -, -, hmet⟩ := Runs.of_onSystemError_ok hruns
  · obtain ⟨-, hrenamed⟩ | ⟨failure, hfailed, -⟩ := changed_of_install hhonest hlead hentry hask
    · exact .of_rename hsound hlead hentry hrenamed
    · cases hfailed
  · obtain ⟨-, hok, -⟩ := Runs.of_throw hmet
    cases hok

end Runs

/-- A commit that succeeds keeps the primary file as the backup and puts the staging file in its place. -/
theorem replaces_of_commit (hhonest : strikes.Honest) (hstaged : Staged paths directory s.world.files)
    (hruns : (commit paths : Action σ Unit).Runs strikes state s tr (.ok ()) state' s') :
    Replaces directory s.world.files s'.world.files := by
  obtain ⟨hsound, hlead, file, hentry⟩ := hstaged
  obtain ⟨backedUp, _, s₁, _, _, -, hguarded, hnote⟩ := hruns.of_bind_ok
  obtain ⟨_, _, s₂, _, _, -, hremove, hrest⟩ := (Runs.of_orCleanUp_ok hguarded).of_bind_ok
  obtain ⟨_, _, s₃, _, _, -, hback, hlast⟩ := Runs.of_bind_ok hrest
  obtain ⟨_, _, s₄, _, _, -, hinstall, hpure⟩ := Runs.of_bind_ok hlast
  obtain ⟨-, -, -, rfl⟩ := Runs.of_pure hpure
  obtain ⟨hsound₂, hcleared, hnone⟩ := of_removeBackup hhonest hsound hlead hremove
  have hlead₂ := hlead.of_directory_iff hcleared.directory
  have hbacked := of_backUpPrimary hhonest hsound₂ hlead₂ hnone hback
  have hlead₃ := hlead₂.of_directory_iff hbacked.changed.directory
  have hentry₃ : s₃.world.files.entry? (stagingAt directory) = some (.file file) := by
    rw [(hcleared.trans hbacked.changed).entry _ (by simp [(backupAt_ne_stagingAt directory).symm]), hentry]
  have hinstalled := of_installStaging hhonest hbacked.sound hlead₃ hentry₃ hinstall
  rw [files_of_note hnote]
  exact .of_steps hcleared hbacked hinstalled

end Commit

end CredentialStore
