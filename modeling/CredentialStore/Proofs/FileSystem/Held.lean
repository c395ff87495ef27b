import CredentialStore.Proofs.FileSystem.Siblings

namespace CredentialStore

namespace FileSystem

variable {fs fs' : FileSystem} {path : Text} {there : Location}

/-- The octets of the file that a path leads to. -/
def contents? (fs : FileSystem) (path : Text) : Option Bytes := (fs.fileId? path).map fs.dataOf

theorem entryAt?_of_locate (hlocate : fs.locate path = .ok there) :
    fs.entryAt? path = fs.entry? there := by
  simp [entryAt?, hlocate]

theorem fileId?_of_locate (hlocate : fs.locate path = .ok there) :
    fs.fileId? path = match fs.entry? there with
      | some (.file id) => some id
      | _ => none := by
  have hentry := entryAt?_of_locate hlocate
  exact congrArg (fun entry : Option Entry => match entry with
    | some (.file id) => some id
    | _ => none) hentry

theorem contents?_eq (hlocate : fs.locate path = .ok there) :
    fs.contents? path = match fs.entry? there with
      | some (.file id) => some (fs.dataOf id)
      | _ => none := by
  rw [contents?, fileId?_of_locate hlocate]
  rcases fs.entry? there with _ | ⟨id | _⟩ <;> rfl

theorem contents?_of_locate (hsound : fs.Sound) (hlocate : fs.locate path = .ok there) :
    fs.contents? path = (fs.fileAt? there).map File.data := by
  rw [contents?, fileId?_of_locate hlocate]
  cases hentry : fs.entry? there with
  | none => simp [fileAt?, hentry]
  | some entry =>
    cases entry with
    | directory => simp [fileAt?, hentry]
    | file id =>
      have hlt := hsound.file_lt there id hentry
      simp [fileAt?, hentry, dataOf, file?, List.getElem?_eq_getElem hlt]

theorem unlink_of_locate (hlocate : fs.locate path = .ok there) :
    fs.unlink path = match fs.entry? there with
      | none => .error (.numbered .notFound)
      | some .directory => .error (.numbered .isDirectory)
      | some (.file _) => .ok (fs.unbind there) := by
  rw [unlink, hlocate]
  rfl

theorem openFile_of_locate (hlocate : fs.locate path = .ok there) :
    fs.openFile path = match fs.entry? there with
      | none => .error (.numbered .notFound)
      | some .directory => .error (.numbered .isDirectory)
      | some (.file id) => .ok id := by
  rw [openFile, hlocate]
  rfl

section Pairs

variable {source target : Text} {old new : Location}

theorem link_of_locate (hold : fs.locate source = .ok old) (hnew : fs.locate target = .ok new) :
    fs.link source target = match fs.entry? old, fs.entry? new with
      | none, _ => .error (.numbered .notFound)
      | some _, some _ => .error (.numbered .alreadyExists)
      | some .directory, none => .error (.numbered .notPermitted)
      | some (.file id), none => .ok (fs.bind new (.file id)) := by
  rw [link, hold]
  rcases hentry : fs.entry? old with _ | ⟨id | _⟩
  · simp only [Bind.bind, Except.bind, hentry]
    rfl
  · simp only [Bind.bind, Except.bind, hentry, hnew]
    cases fs.entry? new <;> rfl
  · simp only [Bind.bind, Except.bind, hentry, hnew]
    cases fs.entry? new <;> rfl

/-- A copy to a path where nothing lies is a new file. -/
theorem copy_of_locate (hold : fs.locate source = .ok old) (hnew : fs.locate target = .ok new)
    (hnone : fs.entry? new = none) :
    fs.copy source target = match fs.entry? old with
      | none => .error (.numbered .notFound)
      | some .directory => .error (.numbered .isDirectory)
      | some (.file id) => .ok (fs.bindNew new ((fs.file? id).getD ⟨[], 0⟩)) := by
  have htarget : fs.copyTarget source target = target := by
    simp [copyTarget, isDirectory, entryAt?_of_locate hnew, hnone]
  have hthere : fs.fileId? target = none := by
    simp [fileId?_of_locate hnew, hnone]
  simp only [copy, htarget, hthere, openFile_of_locate hold, hnew, Bind.bind, Except.bind, hnone]
  rcases fs.entry? old with _ | ⟨id | _⟩ <;> simp [pure, Except.pure]

/-- A copy takes the file at one path to another path, where there was none, or in place of the data and the
    permissions of another file. -/
theorem of_copy_ok (hold : fs.locate source = .ok old) (hnew : fs.locate target = .ok new)
    (hfree : fs.entry? new ≠ some .directory) (hcopy : fs.copy source target = .ok fs') :
    ∃ id, fs.entry? old = some (.file id) ∧
      ((fs.entry? new = none ∧ fs' = fs.bindNew new ((fs.file? id).getD ⟨[], 0⟩)) ∨
        ∃ other, other ≠ id ∧ fs.entry? new = some (.file other) ∧
          fs' = fs.change other fun _ => (fs.file? id).getD ⟨[], 0⟩) := by
  have htarget : fs.copyTarget source target = target := by
    simp [copyTarget, isDirectory, entryAt?_of_locate hnew, hfree]
  simp only [copy, htarget, fileId?_of_locate hold, fileId?_of_locate hnew, openFile_of_locate hold, hnew,
    Bind.bind, Except.bind] at hcopy
  rcases hsource : fs.entry? old with _ | ⟨id | _⟩
  · simp [hsource] at hcopy
  · rcases hover : fs.entry? new with _ | ⟨other | _⟩
    · simp only [hsource, hover, pure, Except.pure, Except.ok.injEq] at hcopy
      exact ⟨id, rfl, .inl ⟨rfl, hcopy.symm⟩⟩
    · by_cases hsame : id = other
      · simp [hsource, hover, hsame, throw, throwThe, MonadExceptOf.throw] at hcopy
      · simp only [hsource, hover, if_neg hsame, pure, Except.pure] at hcopy
        split at hcopy
        · cases hcopy
          exact ⟨id, rfl, .inr ⟨other, Ne.symm hsame, rfl, rfl⟩⟩
        · cases hcopy
    · exact absurd hover hfree
  · rcases hover : fs.entry? new with _ | ⟨other | _⟩ <;> simp [hsource, hover] at hcopy

/-- Moving a file over another name of it does nothing. -/
theorem rename_of_locate (hold : fs.locate source = .ok old) (hnew : fs.locate target = .ok new)
    {id : FileId} (hfile : fs.entry? old = some (.file id)) :
    fs.rename source target = match fs.entry? new with
      | none => .ok (fs.move old new)
      | some .directory => .error (.numbered .isDirectory)
      | some (.file other) => .ok (if id = other then fs else fs.move old new) := by
  simp only [rename, hold, hnew, Bind.bind, Except.bind, hfile]
  rcases fs.entry? new with _ | ⟨other | _⟩ <;> rfl

end Pairs

theorem changedOnly_unbind {id : FileId} (hthere : there ≠ []) (hentry : fs.entry? there = some (.file id)) :
    ChangedOnly [there] fs (fs.unbind there) where
  directory other := by
    rw [entry?_unbind fs hthere]
    by_cases hother : other = there
    · simp [hother, hentry]
    · rw [if_neg hother]
  entry other hother := by
    rw [entry?_unbind fs hthere, if_neg (by simpa using hother)]
  fileAt other hother := by
    refine fileAt?_congr ?_ fun id _ => rfl
    rw [entry?_unbind fs hthere, if_neg (by simpa using hother)]

theorem changedOnly_bind {id : FileId} (hthere : there ≠ []) (hfree : fs.entry? there ≠ some .directory) :
    ChangedOnly [there] fs (fs.bind there (.file id)) where
  directory other := by
    rw [entry?_bind fs hthere]
    by_cases hother : other = there
    · simp [hother, hfree]
    · rw [if_neg hother]
  entry other hother := by
    rw [entry?_bind fs hthere, if_neg (by simpa using hother)]
  fileAt other hother := by
    refine fileAt?_congr ?_ fun id _ => rfl
    rw [entry?_bind fs hthere, if_neg (by simpa using hother)]

theorem changedOnly_bindNew (hsound : fs.Sound) (hthere : there ≠ [])
    (hfree : fs.entry? there ≠ some .directory) (file : File) :
    ChangedOnly [there] fs (fs.bindNew there file) where
  directory other := by
    rw [entry?_bindNew fs hthere]
    by_cases hother : other = there
    · simp [hother, hfree]
    · rw [if_neg hother]
  entry other hother := by
    rw [entry?_bindNew fs hthere, if_neg (by simpa using hother)]
  fileAt other hother := by
    refine fileAt?_congr ?_ fun id hid => file?_bindNew_of_lt fs there file (hsound.file_lt other id hid)
    rw [entry?_bindNew fs hthere, if_neg (by simpa using hother)]

theorem changedOnly_move (hsound : fs.Sound) {source target : Location} (hsource : source ≠ [])
    (htarget : target ≠ []) (hne : source ≠ target) {id : FileId}
    (hfile : fs.entry? source = some (.file id)) (hover : fs.entry? target ≠ some .directory) :
    ChangedOnly [source, target] fs (fs.move source target) := by
  have hentries := entry?_move hsound hsource htarget hne (by simp [hfile])
  have hentry : ∀ there, there ∉ [source, target] →
      entry? (fs.move source target) there = fs.entry? there := by
    intro there hthere
    simp only [List.mem_cons, List.not_mem_nil, or_false, not_or] at hthere
    rw [hentries, if_neg hthere.2, if_neg hthere.1]
  refine ⟨fun there => ?_, hentry, fun there hthere => fileAt?_congr (hentry there hthere) fun id _ => rfl⟩
  rw [hentries]
  by_cases hover' : there = target
  · simp [hover', hfile, hover]
  · rw [if_neg hover']
    by_cases hsource' : there = source
    · simp [hsource', hfile]
    · rw [if_neg hsource']

end FileSystem

open FileSystem StorePaths

/-- The files `now` of a store in a directory that is held through a staging file, against the files
    `before` it was created. -/
structure Held (paths : StorePaths) (directory : Location) (before now : FileSystem)
    (staging : FileId) : Prop where
  sound_before : before.Sound
  sound : now.Sound
  lead : paths.LeadTo now directory
  changed : ChangedOnly [stagingAt directory, backupAt directory] before now
  /-- The staging file is a new one. -/
  fresh : before.files.length ≤ staging
  entry_staging : now.entry? (stagingAt directory) = some (.file staging)
  /-- The staging file has no other name. -/
  eq_stagingAt : ∀ there, now.entry? there = some (.file staging) → there = stagingAt directory
  /-- Older files are as they were. -/
  file : ∀ id, id < before.files.length → now.file? id = before.file? id

namespace Held

variable {paths : StorePaths} {directory : Location} {before now now' : FileSystem} {staging : FileId}

/-- Creating the staging file holds the store. -/
theorem of_create {root : Text} {mode : Nat} (hsound : before.Sound)
    (hcreate : before.create (StorePaths.locate root).staging mode = .ok (staging, now)) :
    ∃ directory, (StorePaths.locate root).LeadTo before directory ∧
      before.entry? (stagingAt directory) = none ∧ ChangedOnly [stagingAt directory] before now ∧
      Held (StorePaths.locate root) directory before now staging ∧ now.dataOf staging = [] := by
  simp only [create, Bind.bind, Except.bind] at hcreate
  cases hlocate : before.locate (StorePaths.locate root).staging with
  | error failure => simp [hlocate] at hcreate
  | ok there =>
    obtain ⟨directory, hlead, rfl⟩ := leadTo_of_locate_staging hlocate
    rw [hlocate] at hcreate
    cases hentry : before.entry? (stagingAt directory) with
    | some entry => simp [hentry, throw, throwThe, MonadExceptOf.throw] at hcreate
    | none =>
      simp only [hentry, pure, Except.pure, Except.ok.injEq, Prod.mk.injEq] at hcreate
      obtain ⟨rfl, rfl⟩ := hcreate
      have hfree : before.entry? (stagingAt directory) ≠ some .directory := by simp [hentry]
      have hchanged := changedOnly_bindNew hsound (stagingAt_ne_nil directory) hfree
        ⟨[], mode &&& (0o7777 ^^^ (before.umask &&& 0o7777))⟩
      have hentries := entry?_bindNew before (stagingAt_ne_nil directory)
        ⟨[], mode &&& (0o7777 ^^^ (before.umask &&& 0o7777))⟩
      refine ⟨directory, hlead, hentry, hchanged, ⟨hsound, ?_, hlead.of_directory_iff hchanged.directory,
        hchanged.mono (by simp), Nat.le_refl _, ?_, ?_, ?_⟩, ?_⟩
      · exact hsound.bindNew (stagingAt_ne_nil directory) (by simpa using hlead.isDirectory) hfree _
      · rw [hentries, if_pos rfl]
      · intro there hthere
        rw [hentries] at hthere
        by_cases heq : there = stagingAt directory
        · exact heq
        · rw [if_neg heq] at hthere
          exact absurd (hsound.file_lt there _ hthere) (Nat.lt_irrefl _)
      · intro id hid
        exact file?_bindNew_of_lt before _ _ hid
      · rw [dataOf, file?_bindNew_length]
        rfl

theorem entry_primary (hheld : Held paths directory before now staging) :
    now.entry? (primaryAt directory) = before.entry? (primaryAt directory) :=
  hheld.changed.entry _ (by simp)

theorem lead_before (hheld : Held paths directory before now staging) : paths.LeadTo before directory :=
  hheld.lead.of_directory_iff fun there => (hheld.changed.directory there).symm

theorem contents?_primary (hheld : Held paths directory before now staging) :
    now.contents? paths.primary = before.contents? paths.primary := by
  rw [contents?_of_locate hheld.sound hheld.lead.primary,
    contents?_of_locate hheld.sound_before hheld.lead_before.primary, hheld.changed.fileAt _ (by simp)]

/-- Of two moments of one hold each differs from the other at most in the staging file and the backup.
    -/
theorem changedOnly (hheld : Held paths directory before now staging)
    (hheld' : Held paths directory before now' staging) :
    ChangedOnly [stagingAt directory, backupAt directory] now now' :=
  hheld.changed.symm.trans hheld'.changed

theorem append (hheld : Held paths directory before now staging) (octets : Bytes) :
    Held paths directory before (now.append staging octets) staging ∧
      (now.append staging octets).dataOf staging = now.dataOf staging ++ octets := by
  have hlt := hheld.sound.file_lt _ _ hheld.entry_staging
  have hold : ∀ id, id ≠ staging → (now.append staging octets).file? id = now.file? id := by
    intro id hid
    rw [FileSystem.append, file?_change, if_neg (Ne.symm hid)]
  refine ⟨⟨hheld.sound_before, hheld.sound.change _ _, ?_, ?_, hheld.fresh, hheld.entry_staging,
    hheld.eq_stagingAt, ?_⟩, ?_⟩
  · exact hheld.lead.of_directory_iff fun there => Iff.rfl
  · refine hheld.changed.trans ⟨fun _ => Iff.rfl, fun _ _ => rfl, fun there hthere => ?_⟩
    refine fileAt?_congr rfl fun id hid => hold id ?_
    rintro rfl
    exact hthere (by simp [hheld.eq_stagingAt there hid])
  · intro id hid
    have hne : id ≠ staging := by
      have hfresh := hheld.fresh
      omega
    rw [hold id hne, hheld.file id hid]
  · obtain ⟨file, hfile⟩ : ∃ file, now.file? staging = some file :=
      ⟨now.files[staging], List.getElem?_eq_getElem hlt⟩
    rw [dataOf, dataOf, FileSystem.append, file?_change, if_pos rfl, hfile]
    rfl

/-- A change of the entries that leaves the files alone, and the staging file its only name, keeps the
    store held. -/
theorem of_changedOnly_backup (hheld : Held paths directory before now staging) (hsound : now'.Sound)
    (hchanged : ChangedOnly [backupAt directory] now now')
    (hbackup : now'.entry? (backupAt directory) ≠ some (.file staging))
    (hfile : ∀ id, id < now.files.length → now'.file? id = now.file? id) :
    Held paths directory before now' staging ∧ now'.dataOf staging = now.dataOf staging := by
  have hlt := hheld.sound.file_lt _ _ hheld.entry_staging
  refine ⟨⟨hheld.sound_before, hsound, hheld.lead.of_directory_iff hchanged.directory,
    hheld.changed.trans (hchanged.mono (by simp)), hheld.fresh, ?_, ?_, ?_⟩, ?_⟩
  · rw [hchanged.entry _ (by simp [Ne.symm (backupAt_ne_stagingAt directory)]), hheld.entry_staging]
  · intro there hthere
    have hne : there ≠ backupAt directory := by
      rintro rfl
      exact hbackup hthere
    rw [hchanged.entry there (by simpa using hne)] at hthere
    exact hheld.eq_stagingAt there hthere
  · intro id hid
    have hnow : id < now.files.length := Nat.lt_trans (Nat.lt_of_lt_of_le hid hheld.fresh) hlt
    rw [hfile id hnow, hheld.file id hid]
  · rw [dataOf, hfile staging hlt, dataOf]

theorem unlinkBackup (hheld : Held paths directory before now staging)
    (hunlink : now.unlink paths.backup = .ok now') :
    (Held paths directory before now' staging ∧ now'.dataOf staging = now.dataOf staging) ∧
      now'.entry? (backupAt directory) = none := by
  rw [unlink_of_locate hheld.lead.backup] at hunlink
  split at hunlink
  · cases hunlink
  · cases hunlink
  · rename_i id hentry
    cases hunlink
    have hnone : entry? (now.unbind (backupAt directory)) (backupAt directory) = none := by
      rw [entry?_unbind now (backupAt_ne_nil directory), if_pos rfl]
    refine ⟨hheld.of_changedOnly_backup ?_ ?_ ?_ ?_, hnone⟩
    · exact hheld.sound.unbind (backupAt_ne_nil directory) (by simp [hentry])
    · exact changedOnly_unbind (backupAt_ne_nil directory) hentry
    · simp [hnone]
    · exact fun id _ => rfl

theorem linkBackup (hheld : Held paths directory before now staging)
    (hlink : now.link paths.primary paths.backup = .ok now') :
    Held paths directory before now' staging ∧ now'.dataOf staging = now.dataOf staging := by
  rw [link_of_locate hheld.lead.primary hheld.lead.backup] at hlink
  split at hlink
  · cases hlink
  · cases hlink
  · cases hlink
  · rename_i id hprimary hbackup
    cases hlink
    have hfree : now.entry? (backupAt directory) ≠ some .directory := by simp [hbackup]
    have hne : id ≠ staging := by
      rintro rfl
      exact primaryAt_ne_stagingAt directory (hheld.eq_stagingAt _ hprimary)
    refine hheld.of_changedOnly_backup ?_ ?_ ?_ ?_
    · exact hheld.sound.bind (backupAt_ne_nil directory) (by simpa using hheld.lead.isDirectory)
        hfree (hheld.sound.file_lt _ _ hprimary)
    · exact changedOnly_bind (backupAt_ne_nil directory) hfree
    · simp [entry?_bind now (backupAt_ne_nil directory), hne]
    · exact fun id _ => rfl

theorem copyBackup (hheld : Held paths directory before now staging)
    (hnone : now.entry? (backupAt directory) = none)
    (hcopy : now.copy paths.primary paths.backup = .ok now') :
    Held paths directory before now' staging ∧ now'.dataOf staging = now.dataOf staging := by
  rw [copy_of_locate hheld.lead.primary hheld.lead.backup hnone] at hcopy
  split at hcopy
  · cases hcopy
  · cases hcopy
  · cases hcopy
    have hlt := hheld.sound.file_lt _ _ hheld.entry_staging
    have hfree : now.entry? (backupAt directory) ≠ some .directory := by simp [hnone]
    refine hheld.of_changedOnly_backup ?_ ?_ ?_ ?_
    · exact hheld.sound.bindNew (backupAt_ne_nil directory) (by simpa using hheld.lead.isDirectory)
        hfree _
    · exact changedOnly_bindNew hheld.sound (backupAt_ne_nil directory) hfree _
    · rw [entry?_bindNew now (backupAt_ne_nil directory), if_pos rfl]
      simpa using Nat.ne_of_gt hlt
    · exact fun id hid => file?_bindNew_of_lt now _ _ hid

/-- Where no backup is in the way, copying fails only for want of a primary file. -/
theorem copy_error (hheld : Held paths directory before now staging)
    (hnone : now.entry? (backupAt directory) = none) {failure : Failure}
    (hcopy : now.copy paths.primary paths.backup = .error failure) :
    failure = .numbered .notFound ∨ now.entry? (primaryAt directory) = some .directory := by
  rw [copy_of_locate hheld.lead.primary hheld.lead.backup hnone] at hcopy
  split at hcopy
  · cases hcopy
    exact .inl rfl
  · rename_i hprimary
    exact .inr hprimary
  · cases hcopy

theorem unlinkStaging (hheld : Held paths directory before now staging) :
    ∃ now', now.unlink paths.staging = .ok now' ∧ now'.Sound ∧
      ChangedOnly [stagingAt directory] now now' ∧ now'.entry? (stagingAt directory) = none := by
  refine ⟨now.unbind (stagingAt directory), ?_, ?_, ?_, ?_⟩
  · rw [unlink_of_locate hheld.lead.staging, hheld.entry_staging]
  · exact hheld.sound.unbind (stagingAt_ne_nil directory) (by simp [hheld.entry_staging])
  · exact changedOnly_unbind (stagingAt_ne_nil directory) hheld.entry_staging
  · rw [entry?_unbind now (stagingAt_ne_nil directory), if_pos rfl]

/-- The staging file can be installed over anything but a directory. -/
theorem rename_eq (hheld : Held paths directory before now staging)
    (hprimary : now.entry? (primaryAt directory) ≠ some .directory) :
    now.rename paths.staging paths.primary =
      .ok (now.move (stagingAt directory) (primaryAt directory)) := by
  rw [rename_of_locate hheld.lead.staging hheld.lead.primary hheld.entry_staging]
  split
  · rfl
  · rename_i hdirectory
    exact absurd hdirectory hprimary
  · rename_i id hentry
    have hne : staging ≠ id := by
      rintro rfl
      exact primaryAt_ne_stagingAt directory (hheld.eq_stagingAt _ hentry)
    rw [if_neg hne]

/-- The staging file takes the place of the primary file, and nothing else changes. -/
theorem install (hheld : Held paths directory before now staging)
    (hrename : now.rename paths.staging paths.primary = .ok now') :
    now'.Sound ∧ ChangedOnly [stagingAt directory, primaryAt directory] now now' ∧
      now'.entry? (stagingAt directory) = none ∧
      now'.contents? paths.primary = some (now.dataOf staging) := by
  have hprimary : now.entry? (primaryAt directory) ≠ some .directory := by
    intro hentry
    rw [rename_of_locate hheld.lead.staging hheld.lead.primary hheld.entry_staging, hentry] at hrename
    cases hrename
  rw [hheld.rename_eq hprimary] at hrename
  cases hrename
  have hlt := hheld.sound.file_lt _ _ hheld.entry_staging
  have hne := Ne.symm (primaryAt_ne_stagingAt directory)
  have hentries := entry?_move hheld.sound (stagingAt_ne_nil directory) (primaryAt_ne_nil directory) hne
    (by simp [hheld.entry_staging])
  have hsound := hheld.sound.move (stagingAt_ne_nil directory) (primaryAt_ne_nil directory) hne
    hheld.entry_staging hprimary (by simpa using hheld.lead.isDirectory)
  have hchanged := changedOnly_move hheld.sound (stagingAt_ne_nil directory) (primaryAt_ne_nil directory) hne
    hheld.entry_staging hprimary
  refine ⟨hsound, hchanged, ?_, ?_⟩
  · rw [hentries, if_neg hne, if_pos rfl]
  · rw [contents?_of_locate hsound (hheld.lead.of_directory_iff hchanged.directory).primary,
      fileAt?_of_file (by rw [hentries, if_pos rfl, hheld.entry_staging]), file?_move]
    simp [dataOf, file?, List.getElem?_eq_getElem hlt]

end Held

end CredentialStore
