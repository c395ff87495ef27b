import CredentialStore.Proofs.Store.Apart
import CredentialStore.Proofs.Transaction.Stages

namespace CredentialStore

open CredentialStore.Action FileSystem StorePaths

/-- A file that is opened to be added to is there already or is a new one, and nothing else changes. -/
theorem FileSystem.of_openToAppend {fs fs' : FileSystem} {there : Location} {id : FileId} (hsound : fs.Sound)
    (hopen : fs.openToAppend there = .ok (id, fs')) :
    fs'.Sound ∧ ChangedOnly [there] fs fs' ∧ fs'.entry? there = some (.file id) ∧
      (fs.entry? there = some (.file id) ∨ id = fs.files.length) := by
  unfold openToAppend at hopen
  rcases hentry : fs.entry? there with _ | ⟨other | _⟩
  · rcases hparent : fs.entry? there.dropLast with _ | ⟨other | _⟩ <;> rw [hentry, hparent] at hopen
    · cases hopen
    · cases hopen
    · cases hopen
      have hthere : there ≠ [] := by
        rintro rfl
        cases hentry
      have hfree : fs.entry? there ≠ some .directory := by simp [hentry]
      refine ⟨hsound.bindNew hthere hparent hfree _, changedOnly_bindNew hsound hthere hfree _, ?_, .inr rfl⟩
      rw [entry?_bindNew fs hthere, if_pos rfl]
  · rw [hentry] at hopen
    cases hopen
    exact ⟨hsound, .refl fs, hentry, .inl rfl⟩
  · rw [hentry] at hopen
    cases hopen

/-- Whether a place is not the one of the primary file of a store, and no other name of it lies there. -/
def StorePaths.ApartFrom (paths : StorePaths) (fs : FileSystem) (place : Location) : Prop :=
  ∀ directory, paths.LeadTo fs directory → place ≠ primaryAt directory ∧
    ∀ id, fs.entry? place = some (.file id) → fs.entry? (primaryAt directory) ≠ some (.file id)

/-- Whether the primary file of a store is the same file and holds the same octets in two file systems. -/
structure FileSystem.SamePrimary (paths : StorePaths) (fs fs' : FileSystem) : Prop where
  contents : fs'.contents? paths.primary = fs.contents? paths.primary
  entry : fs'.entryAt? paths.primary = fs.entryAt? paths.primary

theorem FileSystem.SamePrimary.trans {paths : StorePaths} {fs fs' fs'' : FileSystem}
    (h : fs.SamePrimary paths fs') (h' : fs'.SamePrimary paths fs'') : fs.SamePrimary paths fs'' :=
  ⟨h'.contents.trans h.contents, h'.entry.trans h.entry⟩

/-- While the directories stay, the path of a primary file leads nowhere, or all paths of its store lead into one
    directory. -/
theorem FileSystem.ChangedOnly.exists_leadTo_or {changed : List Location} {fs fs' : FileSystem}
    (hchanged : ChangedOnly changed fs fs') (root : Text) :
    (∃ directory, (StorePaths.locate root).LeadTo fs directory) ∨
      fs.entryAt? (StorePaths.locate root).primary = none ∧ fs'.entryAt? (StorePaths.locate root).primary = none := by
  have hlocate : ∀ fs : FileSystem, (∃ directory, (StorePaths.locate root).LeadTo fs directory) ∨
      fs.entryAt? (StorePaths.locate root).primary = none := by
    intro fs
    unfold entryAt?
    cases hlocate : fs.locate (StorePaths.locate root).primary with
    | error failure => exact .inr rfl
    | ok there =>
      obtain ⟨directory, hlead, -⟩ :=
        leadTo_of_locate_within toBytes?_primaryName isFileName_primaryOctets rfl hlocate
      exact .inl ⟨directory, hlead⟩
  obtain hlead | hnone := hlocate fs
  · exact .inl hlead
  · obtain ⟨directory, hlead⟩ | hnone' := hlocate fs'
    · exact .inl ⟨directory, hlead.of_changedOnly hchanged.symm⟩
    · exact .inr ⟨hnone, hnone'⟩

namespace Log.Options.Opens

variable {options : Log.Options} {place : Location} {log : Option FileId} {fs fs' : FileSystem} {root : Text}
  (hopens : options.Opens place fs log fs') (hsound : fs.Sound)
include hopens hsound

theorem sound : fs'.Sound := by
  cases hopens with
  | nowhere => exact hsound
  | file _ hopen => exact (of_openToAppend hsound hopen).1

theorem changedOnly : ChangedOnly [place] fs fs' := by
  cases hopens with
  | nowhere => exact .refl fs
  | file _ hopen => exact (of_openToAppend hsound hopen).2.1

theorem log_lt {id : FileId} (hlog : log = some id) : id < fs'.files.length := by
  have hsound' := hopens.sound hsound
  cases hopens with
  | nowhere => cases hlog
  | file _ hopen =>
    cases hlog
    exact hsound'.file_lt place id (of_openToAppend hsound hopen).2.2.1

variable (hapart : options.keepsFile = true → (StorePaths.locate root).ApartFrom fs place)
include hapart

/-- The file of the log is not the primary file of a store that it is apart from, -/
theorem log_ne {id : FileId} (hprimary : fs'.fileId? (StorePaths.locate root).primary = some id) :
    ¬log = some id := by
  intro hlog
  have hchanged := hopens.changedOnly hsound
  cases hopens with
  | nowhere => cases hlog
  | file hkeeps hopen =>
    cases hlog
    obtain ⟨-, -, -, hthere⟩ := of_openToAppend hsound hopen
    have hnow := entryAt?_of_fileId? hprimary
    obtain ⟨directory, hlead⟩ | ⟨-, hnone⟩ := hchanged.exists_leadTo_or root
    · obtain ⟨hplace, hother⟩ := hapart hkeeps directory hlead
      have hentry : fs.entry? (primaryAt directory) = some (.file id) := by
        rw [← entryAt?_of_locate hlead.primary, ← hchanged.entryAt?_primary hlead (by simpa using Ne.symm hplace)]
        exact hnow
      rcases hthere with hthere | rfl
      · exact hother id hthere hentry
      · exact absurd (hsound.file_lt _ _ hentry) (Nat.lt_irrefl _)
    · cases hnone.symm.trans hnow

/-- and opening it leaves that file as it was. -/
theorem samePrimary : fs.SamePrimary (StorePaths.locate root) fs' := by
  have hchanged := hopens.changedOnly hsound
  have hsound' := hopens.sound hsound
  cases hopens with
  | nowhere => exact ⟨rfl, rfl⟩
  | file hkeeps hopen =>
    obtain ⟨directory, hlead⟩ | ⟨hnone, hnone'⟩ := hchanged.exists_leadTo_or root
    · have hnot : primaryAt directory ∉ [place] := by simpa using Ne.symm (hapart hkeeps directory hlead).1
      exact ⟨hchanged.contents?_primary hsound hsound' hlead hnot, hchanged.entryAt?_primary hlead hnot⟩
    · exact ⟨by simp only [contents?, fileId?, hnone, hnone', Option.map_none], hnone'.trans hnone.symm⟩

end Log.Options.Opens

namespace Transaction

variable {t : Transaction} {secrets : Secrets} {may : FileId → Prop} {s s' : Scene} {tr : Trace}

theorem readsOnly_prepare : (t.prepare secrets).ReadsOnly t.settings.paths may := by
  rw [prepare_eq]
  refine readsOnly_bind (readsOnly_onPart (Rewrite.readsOnly_merge rfl)) fun seen => ?_
  have hfinish : (t.finish secrets seen).Uses (·.ReadsOnly t.settings.paths may) :=
    uses_finish seen (fun _ => Rewrite.readsOnly_of_writes) (fun _ => Rewrite.readsOnly_of_closes) trivial
  exact readsOnly_of_uses hfinish fun _ hreads => hreads

theorem readsOnly_apply : (t.apply secrets).ReadsOnly t.settings.paths may := by
  have hacquire : t.rewrite.acquire.ReadsOnly t.settings.paths may :=
    readsOnly_of_uses Rewrite.uses_acquire fun _ => Rewrite.readsOnly_of_gates
  have hdiscard : t.rewrite.discard.ReadsOnly t.settings.paths may :=
    readsOnly_of_uses Rewrite.uses_discard fun _ hgives => Rewrite.readsOnly_of_gates (.of_givesUp hgives)
  refine readsOnly_bind (readsOnly_modify _) fun _ => readsOnly_bind (readsOnly_onPart hacquire) fun _ => ?_
  refine readsOnly_bind (readsOnly_modify _) fun _ => ?_
  refine readsOnly_bind (readsOnly_orCleanUp readsOnly_prepare (readsOnly_onPart hdiscard)) fun record => ?_
  refine readsOnly_bind (readsOnly_onPart (readsOnly_modify _)) fun _ => ?_
  exact readsOnly_bind Commit.readsOnly_commit fun _ => readsOnly_bind (readsOnly_modify _) fun _ => readsOnly_pure _

/-- A transaction reads no file but its primary one. -/
theorem readsOnly_execute : t.execute.ReadsOnly t.settings.paths may := by
  have hasks : ∀ c, Call.Asks c → c.ReadsOnly t.settings.paths may := fun c hasks => by
    cases c <;> first | exact False.elim hasks | trivial
  have hrun : t.run.ReadsOnly t.settings.paths may := by
    rw [run_eq]
    exact readsOnly_bind (readsOnly_of_uses (uses_opening trivial hasks) fun _ hreads => hreads) fun _ =>
      readsOnly_apply
  refine readsOnly_bind (readsOnly_attempt hrun) fun outcome => ?_
  split
  · exact readsOnly_bind (readsOnly_note _) fun _ => readsOnly_bind readsOnly_get fun _ => readsOnly_pure _
  · refine readsOnly_bind readsOnly_get fun _ => readsOnly_bind (readsOnly_modify _) fun _ => ?_
    exact readsOnly_bind (readsOnly_note _) fun _ => readsOnly_pure _
  · exact readsOnly_throw _

/-- A transaction whose primary file is not the file of the log ends in the same way where nothing is added to
    that file, and leaves the same primary file. -/
theorem exists_runs_of_logging {options : Log.Options} {place : Location} {log : Option FileId} {fs : FileSystem}
    {report : Except Failure Report} {progress : Progress} (hsound : fs.Sound)
    (hopens : options.Opens place fs log s.world.files)
    (hapart : options.keepsFile = true → t.settings.paths.ApartFrom fs place)
    (hruns : t.execute.RunsLogging place log {} s tr report progress s') :
    ∃ last, t.execute.Runs .systemErrors {} s tr report progress last ∧ tr.Calm ∧
      last.world.files.SamePrimary t.settings.paths s'.world.files := by
  have houtside : Trace.standing [] = .outside := rfl
  have hsafe : t.execute.Safe (storeContract .systemErrors (· = s.world.files) t.settings.paths
      (t.updateIn s.session)) (fun report _ tr' _ => ∃ outcome, t.Reports outcome report ∧
        t.Ended (· = s.world.files) s.session outcome tr') {} [] s :=
    safe_execute t Strikes.honest_systemErrors Strikes.onlySystem_systemErrors
      (fun fs (hfs : fs = s.world.files) => hfs ▸ hopens.sound hsound) houtside rfl
  have hfiles : Apart t.settings.paths (log = some ·) .outside s.world.files :=
    ⟨hopens.sound hsound, fun _ hlog => hopens.log_lt hsound hlog, fun _ => hopens.log_ne hsound hapart,
      fun _ hholding => by cases hholding⟩
  obtain ⟨after, hplain, hcalm, hsame, hfiles'⟩ :=
    hruns.mirrored (readsOnly_execute {}) hsafe (fun _ => rfl) (.refl _ s.world.files) hfiles
  refine ⟨s'.withFiles after, hplain, hcalm, ?_, (hsame.entryAt?_eq _).symm⟩
  exact (hsame.contents?_eq fun id hid => hfiles'.primary id ((hsame.fileId?_eq _).trans hid)).symm

end Transaction

end CredentialStore
