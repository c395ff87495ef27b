import CredentialStore.Proofs.Store.Reached
import CredentialStore.Proofs.Store.Reading

namespace CredentialStore

open FileSystem StorePaths

theorem FileSystem.ChangedOnly.entryAt?_primary {paths : StorePaths} {fs fs' : FileSystem} {directory : Location}
    {changed : List Location} (hchanged : ChangedOnly changed fs fs') (hlead : paths.LeadTo fs directory)
    (hprimary : primaryAt directory ∉ changed) : fs'.entryAt? paths.primary = fs.entryAt? paths.primary := by
  rw [entryAt?_of_locate (hlead.of_changedOnly hchanged).primary, entryAt?_of_locate hlead.primary]
  exact hchanged.entry _ hprimary

/-- After it is installed the staging file lies where the primary file belongs. -/
theorem FileSystem.entry?_primary_of_rename {paths : StorePaths} {fs fs' : FileSystem} {directory : Location}
    {file : FileId} (hsound : fs.Sound) (hlead : paths.LeadTo fs directory)
    (hentry : fs.entry? (stagingAt directory) = some (.file file))
    (hrename : fs.rename paths.staging paths.primary = .ok fs') :
    fs'.entry? (primaryAt directory) = some (.file file) := by
  have hmoved := entry?_move hsound (stagingAt_ne_nil directory) (primaryAt_ne_nil directory)
    (Ne.symm (primaryAt_ne_stagingAt directory)) (by simp [hentry]) (primaryAt directory)
  rw [if_pos rfl, hentry] at hmoved
  rw [rename_of_locate hlead.staging hlead.primary hentry] at hrename
  split at hrename
  · cases hrename
    exact hmoved
  · cases hrename
  · rename_i other hprimary
    by_cases hsame : file = other
    · rw [if_pos hsame] at hrename
      cases hrename
      rw [hprimary, hsame]
    · rw [if_neg hsame] at hrename
      cases hrename
      exact hmoved

/-- A staging file that was installed was renamed. -/
theorem Scene.Answers.rename_of_install {strikes : Strikes} {s s' : Scene} {source target : Text} {struck : Bool}
    (hanswer : Scene.Answers strikes s ⟨.install source target, .ok (), struck⟩ s') :
    s.world.files.rename source target = .ok s'.world.files := by
  obtain ⟨rfl, hperformed, rfl⟩ | ⟨_, -, hfailed, -⟩ := hanswer.performed_or_struck
  · have hchanging : (s.world.changing (s.world.files.rename source target)).1 = .ok () := hperformed.symm
    have hworld : (s.perform (.install source target)).2.world =
      (s.world.changing (s.world.files.rename source target)).2 := rfl
    rw [hworld]
    cases hrename : s.world.files.rename source target with
    | ok after => rfl
    | error failure =>
      rw [hrename] at hchanging
      cases hchanging
  · cases hfailed

/-- The files of a store whose primary file, and whose staging file where it is held, are none of some files. -/
structure Apart (paths : StorePaths) (changed : FileId → Prop) (st : Standing) (fs : FileSystem) : Prop where
  sound : fs.Sound
  lt : ∀ id, changed id → id < fs.files.length
  primary : ∀ id, fs.fileId? paths.primary = some id → ¬changed id
  holding : ∀ id, st = .holding id → ¬changed id

namespace Apart

variable {paths : StorePaths} {changed : FileId → Prop} {st : Standing} {strikes : Strikes}
  {update : Option Bytes → Option Bytes} {s s' : Scene} {e : Event}

/-- An event of the conduct keeps the store apart from the files: a staging file is a new one when it is created,
    and it is the only file that becomes the primary one. -/
theorem step (hapart : Apart paths changed st s.world.files)
    (hconduct : Conduct paths update st s.world.files e s'.world.files) (hanswer : Scene.Answers strikes s e s') :
    Apart paths changed (st.next e) s'.world.files := by
  have hlt : ∀ id, changed id → id < s'.world.files.files.length := fun id hid =>
    Nat.lt_of_lt_of_le (hapart.lt id hid) hanswer.length_files_le
  have hkept : ∀ {directory : Location} {locations : List Location}, paths.LeadTo s.world.files directory →
      ChangedOnly locations s.world.files s'.world.files → primaryAt directory ∉ locations →
      ∀ id, s'.world.files.fileId? paths.primary = some id → ¬changed id := by
    intro directory locations hlead hchanged hnot id hid
    unfold fileId? at hid
    rw [hchanged.entryAt?_primary hlead hnot] at hid
    exact hapart.primary id hid
  have hinstalled : ∀ {source target struck}, e = ⟨.install source target, .ok (), struck⟩ →
      s.world.files.rename source target = .ok s'.world.files := by
    rintro source target struck rfl
    exact hanswer.rename_of_install
  generalize s'.world.files = fs' at *
  cases hconduct with
  | aside hturn =>
    rw [Standing.next, hturn, Option.getD_none]
    exact hapart
  | @create _ _ directory mode file struck hlead hfree hentry hfresh hsound hchanged =>
    refine ⟨hsound, hlt, hkept hlead hchanged (by simp), fun id hid hchange => ?_⟩
    cases hid
    exact absurd (hapart.lt _ hchange) (Nat.not_lt.2 hfresh)
  | work hturn hlead hentry hentry' hsound hchanged =>
    rw [Standing.next, hturn, Option.getD_none]
    exact ⟨hsound, hlt, hkept hlead hchanged (by simp), hapart.holding⟩
  | remove hlead hentry hentry' hsound hchanged =>
    exact ⟨hsound, hlt, hkept hlead hchanged (by simp), fun id hid => by cases hid⟩
  | @install _ _ directory file struck hlead hentry hentry' hsound hchanged hupdate =>
    refine ⟨hsound, hlt, fun id hid => ?_, fun id hid => by cases hid⟩
    have hprimary := entry?_primary_of_rename hapart.sound hlead hentry (hinstalled rfl)
    rw [fileId?_of_locate (hlead.of_changedOnly hchanged).primary, hprimary] at hid
    cases hid
    exact hapart.holding file rfl

/-- What a program that reads the primary file only may be given to read is none of the files. -/
theorem ignores {fs : FileSystem} (hapart : Apart paths changed st fs) {c : Call}
    (hreads : c.ReadsOnly paths (¬changed ·)) : c.Ignores changed fs := by
  cases c with
  | openPrimary path | copyBackup path target =>
    obtain rfl : path = paths.primary := hreads
    exact hapart.primary
  | fetchLine id start stop => exact hreads
  | _ => trivial

theorem opens (hapart : Apart paths changed st s.world.files) (hreads : e.call.ReadsOnly paths (¬changed ·))
    (hanswer : Scene.Answers strikes s e s') : Event.Opens (¬changed ·) e := by
  cases hanswer with
  | @struck c failure => cases c <;> trivial
  | performed c =>
    cases c with
    | openPrimary path =>
      obtain rfl : path = paths.primary := hreads
      simp only [Scene.perform, World.answer]
      cases hopen : s.world.files.openFile paths.primary with
      | ok id => exact hapart.primary id (fileId?_of_openFile hopen)
      | error failure => trivial
    | _ => trivial

end Apart

/-- A program that reads a store apart from the file of the log runs as it does where nothing is added to that
    file, which may hold anything then. -/
theorem Program.RunsLogging.mirrored {paths : StorePaths} {strikes : Strikes} {assumes : FileSystem → Prop}
    {update : Option Bytes → Option Bytes} {place : Location} {log : Option FileId} {α : Type} {p : Program α}
    {post : α → Trace → Scene → Prop} {s s' : Scene} {tr rest : Trace} {value : α} {files : FileSystem}
    (hruns : p.RunsLogging place log s rest value s') (hreads : p.ReadsOnly paths (¬log = some ·))
    (hsafe : p.Safe (storeContract strikes assumes paths update) post tr (s.withFiles files))
    (hassumes : tr.standing = .outside → assumes files) (hsame : s.world.files.SameBut (log = some ·) files)
    (hapart : Apart paths (log = some ·) tr.standing files) :
    ∃ after, p.Runs strikes (s.withFiles files) rest value (s'.withFiles after) ∧ rest.Calm ∧
      s'.world.files.SameBut (log = some ·) after ∧ Apart paths (log = some ·) (tr ++ rest).standing after := by
  induction hruns generalizing tr files with
  | done log s value =>
    rw [List.append_nil]
    exact ⟨files, .done _ _, fun _ he => (by cases he), hsame, hapart⟩
  | @call log log' s s₁ s₂ e next rest value hserves hrest ih =>
    have hset : ∀ options, e.call ≠ .setUpLog options := fun options hcall => by
      have hnone := hreads.1
      rw [hcall] at hnone
      exact hnone
    obtain ⟨rfl, hcalm, after, hanswer, hsame₁⟩ :=
      hserves.answers hset hsame ((hapart.ignores hreads.1).of_sameBut hsame)
    have hanswer' : Scene.Answers strikes (s.withFiles files) e (s₁.withFiles after) := hanswer
    obtain ⟨hallowed, hnext⟩ := hsafe (s.withFiles files) (Contract.drifts_self hassumes) e.answer e.struck _ hanswer'
    have hopens : Event.Opens (¬log' = some ·) ⟨e.call, e.answer, false⟩ := by
      rw [← hcalm]
      exact Apart.opens (s := s.withFiles files) hapart hreads.1 hanswer'
    have hapart₁ := Apart.step (s := s.withFiles files) hapart hallowed hanswer'
    have hassumes₁ := Contract.assumes_next (s := s.withFiles files) (fun _ _ _ => Conduct.files_eq) hassumes hallowed
    rw [← Trace.standing_append_singleton] at hapart₁
    obtain ⟨last, hruns, hrestCalm, hlast, hapart₂⟩ := ih (hreads.2 _ hopens) hnext hassumes₁ hsame₁ hapart₁
    rw [List.append_assoc] at hapart₂
    refine ⟨last, .call hanswer' hruns, fun e' he' => ?_, hlast, hapart₂⟩
    rcases List.mem_cons.1 he' with rfl | he'
    · exact hcalm
    · exact hrestCalm e' he'

end CredentialStore
