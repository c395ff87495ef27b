import CredentialStore.Proofs.FileSystem.Held
import CredentialStore.Proofs.Run.Action

namespace CredentialStore

open FileSystem StorePaths

/-- What one step may do to the files of a store, by how the program stands to the staging file. The
    primary file changes only as `update` says, and only when the staging file is installed. -/
inductive Conduct (paths : StorePaths) (update : Option Bytes → Option Bytes) :
    Standing → FileSystem → Event → FileSystem → Prop
  | aside {st : Standing} {fs : FileSystem} {e : Event} (hturn : e.turn? = none) :
      Conduct paths update st fs e fs
  | create {fs fs' : FileSystem} {directory : Location} {mode : Nat} {file : FileId} {struck : Bool}
      (hlead : paths.LeadTo fs directory) (hfree : fs.entry? (stagingAt directory) = none)
      (hentry : fs'.entry? (stagingAt directory) = some (.file file))
      (hfresh : fs.files.length ≤ file) (hsound : fs'.Sound)
      (hchanged : ChangedOnly [stagingAt directory] fs fs') :
      Conduct paths update .outside fs ⟨.createStaging paths.staging mode, .ok file, struck⟩ fs'
  | work {fs fs' : FileSystem} {directory : Location} {file : FileId} {e : Event}
      (hturn : e.turn? = none) (hlead : paths.LeadTo fs directory)
      (hentry : fs.entry? (stagingAt directory) = some (.file file))
      (hentry' : fs'.entry? (stagingAt directory) = some (.file file)) (hsound : fs'.Sound)
      (hchanged : ChangedOnly [stagingAt directory, backupAt directory] fs fs') :
      Conduct paths update (.holding file) fs e fs'
  | remove {fs fs' : FileSystem} {directory : Location} {file : FileId} {struck : Bool}
      (hlead : paths.LeadTo fs directory)
      (hentry : fs.entry? (stagingAt directory) = some (.file file))
      (hentry' : fs'.entry? (stagingAt directory) = none) (hsound : fs'.Sound)
      (hchanged : ChangedOnly [stagingAt directory] fs fs') :
      Conduct paths update (.holding file) fs ⟨.unlinkStaging paths.staging, .ok (), struck⟩ fs'
  | install {fs fs' : FileSystem} {directory : Location} {file : FileId} {struck : Bool}
      (hlead : paths.LeadTo fs directory)
      (hentry : fs.entry? (stagingAt directory) = some (.file file))
      (hentry' : fs'.entry? (stagingAt directory) = none) (hsound : fs'.Sound)
      (hchanged : ChangedOnly [stagingAt directory, primaryAt directory] fs fs')
      (hupdate : fs'.contents? paths.primary = update (fs.contents? paths.primary)) :
      Conduct paths update (.holding file) fs
        ⟨.install paths.staging paths.primary, .ok (), struck⟩ fs'

/-- Whoever does not hold the store leaves the files as they are, up to the moment of creating the
    staging file. -/
theorem Conduct.files_eq {paths : StorePaths} {update : Option Bytes → Option Bytes}
    {fs fs' : FileSystem} {e : Event} (hconduct : Conduct paths update .outside fs e fs')
    (hturn : e.turn? = none) : fs' = fs := by
  cases hconduct with
  | aside => rfl
  | create => cases hturn

/-- The contract of a program on a store. -/
def storeContract (strikes : Strikes) (assumes : FileSystem → Prop) (paths : StorePaths)
    (update : Option Bytes → Option Bytes) : Contract where
  strikes
  assumes
  allows := Conduct paths update

/-- Failures that are honest: they strike only calls on files, and report only what is missing as
    missing. -/
structure Strikes.Honest (strikes : Strikes) : Prop where
  onFiles : ∀ fs c failure, strikes fs c failure → c.faultPoint?.isSome
  missing : ∀ fs c, strikes fs c (.numbered .notFound) → ∀ path, c.path? = some path →
    fs.entryAt? path = none

def Strikes.OnlySystem (strikes : Strikes) : Prop :=
  ∀ fs c failure, strikes fs c failure → ∃ e, failure = .system e

theorem Strikes.honest_systemErrors : systemErrors.Honest where
  onFiles _ _ _ hstrikes := hstrikes.1
  missing fs c hstrikes path hpath := by
    obtain ⟨-, e, he, hmissing⟩ := hstrikes
    cases he
    exact hmissing rfl path hpath

theorem Strikes.onlySystem_systemErrors : systemErrors.OnlySystem :=
  fun _ _ _ hstrikes => hstrikes.2.imp fun _ h => h.1

/-- Whether a call leaves the files as they are and makes nobody hold or let go of a store. -/
def Call.LeavesFiles : Call → Prop
  | openStream _ | abandonStream _ | flush _ | sync _ | closeStaging _ => True
  | openPrimary _ | fetchLine _ _ _ | closePrimary _ | log _ | beginTransaction => True
  | _ => False

theorem Call.LeavesFiles.turn?_eq {c : Call} (hleaves : c.LeavesFiles) (answer : c.Answer)
    (struck : Bool) : Event.turn? ⟨c, answer, struck⟩ = none := by
  cases c <;> first | exact False.elim hleaves | rfl

theorem Call.LeavesFiles.perform_eq {c : Call} (hleaves : c.LeavesFiles) (s : Scene) :
    s.perform c = ((s.world.answer c).1, { s with world := (s.world.answer c).2 }) := by
  cases c <;> first | exact False.elim hleaves | rfl

theorem Call.LeavesFiles.files_answer {c : Call} (hleaves : c.LeavesFiles) (w : World) :
    (w.answer c).2.files = w.files := by
  cases c with
  | openPrimary path =>
    simp only [World.answer]
    split <;> rfl
  | log event =>
    simp only [World.answer, World.record]
    split
    · rfl
    · split <;> rfl
  | beginTransaction => simp only [World.answer, World.beginTransaction]
  | _ => first | exact False.elim hleaves | rfl

theorem Trace.disturbed_append_struck (tr : Trace) (c : Call) (failure : Failure) :
    Disturbed (tr ++ [⟨c, .error failure, true⟩]) :=
  ⟨⟨c, .error failure, true⟩, by simp, rfl⟩

theorem Event.turn?_error (c : Call) (failure : Failure) (struck : Bool) :
    turn? ⟨c, .error failure, struck⟩ = none := by
  cases c <;> rfl

/-- Whether a directory lies where the primary file or the backup belongs. -/
def Obstructed (directory : Location) (fs : FileSystem) : Prop :=
  fs.entry? (primaryAt directory) = some .directory ∨ fs.entry? (backupAt directory) = some .directory

/-- What can keep the holder of a store from going on: a failure that struck, or a directory in the way.
    -/
def Hindered (directory : Location) (before : FileSystem) (tr : Trace) : Prop :=
  tr.Disturbed ∨ Obstructed directory before

theorem Hindered.extended {directory : Location} {before : FileSystem} {tr tr' : Trace}
    (hhindered : Hindered directory before tr) (hbegins : tr <+: tr') : Hindered directory before tr' :=
  hhindered.imp_left fun hdisturbed => hdisturbed.extended hbegins

/-- A program holds the store of a directory through a staging file, in which something is written. -/
structure Holds (paths : StorePaths) (directory : Location) (before : FileSystem) (file : FileId)
    (written : Bytes) (tr : Trace) (s : Scene) : Prop where
  standing : tr.standing = .holding file
  held : Held paths directory before s.world.files file
  data : s.world.files.dataOf file = written

namespace Holds

variable {strikes : Strikes} {assumes : FileSystem → Prop} {paths : StorePaths}
  {update : Option Bytes → Option Bytes} {σ : Type} {state : σ} {directory : Location}
  {before : FileSystem} {file : FileId} {written : Bytes} {tr : Trace} {s : Scene}

theorem files_of_drifts (hholds : Holds paths directory before file written tr s) {s₀ : Scene}
    (hdrift : (storeContract strikes assumes paths update).Drifts tr.standing s s₀) :
    s₀.world.files = s.world.files := by
  have hfiles := hdrift.2
  rw [hholds.standing] at hfiles
  exact hfiles

theorem of_files_eq (hholds : Holds paths directory before file written tr s) {e : Event}
    (hturn : e.turn? = none) {s' : Scene} (hfiles : s'.world.files = s.world.files) :
    Holds paths directory before file written (tr ++ [e]) s' where
  standing := by rw [Trace.standing_append_singleton, Standing.next, hturn, hholds.standing]; rfl
  held := by rw [hfiles]; exact hholds.held
  data := by rw [hfiles]; exact hholds.data

theorem of_struck (hholds : Holds paths directory before file written tr s) (c : Call)
    (failure : Failure) (struck : Bool) {s' : Scene} (hfiles : s'.world.files = s.world.files) :
    Holds paths directory before file written (tr ++ [⟨c, .error failure, struck⟩]) s' :=
  hholds.of_files_eq (Event.turn?_error c failure struck) hfiles

theorem safe_ask (hholds : Holds paths directory before file written tr s) {c : Call}
    {post : Except Failure c.Reply → σ → Trace → Scene → Prop}
    (hperformed : ∀ s₀ : Scene, s₀.world.files = s.world.files →
      Conduct paths update (.holding file) s.world.files ⟨c, (s₀.perform c).1, false⟩
          (s₀.perform c).2.world.files ∧
        post (s₀.perform c).1 state (tr ++ [⟨c, (s₀.perform c).1, false⟩]) (s₀.perform c).2)
    (hstruck : ∀ failure s', strikes s.world.files c failure →
      Holds paths directory before file written (tr ++ [⟨c, .error failure, true⟩]) s' →
      post (.error failure) state (tr ++ [⟨c, .error failure, true⟩]) s') :
    (Action.ask c).Safe (storeContract strikes assumes paths update) post state tr s := by
  refine Action.safe_ask fun s₀ hdrift answer struck s' hanswer => ?_
  have hfiles := hholds.files_of_drifts hdrift
  rw [hholds.standing]
  cases hanswer with
  | performed =>
    rw [hfiles]
    exact hperformed s₀ hfiles
  | @struck _ failure hstrikes =>
    refine ⟨.aside (Event.turn?_error c failure true), ?_⟩
    exact hstruck failure s₀ (hfiles ▸ hstrikes) (hholds.of_struck c failure true hfiles)

theorem safe_ask_leaving (hholds : Holds paths directory before file written tr s) {c : Call}
    (hleaves : c.LeavesFiles) {post : Except Failure c.Reply → σ → Trace → Scene → Prop}
    (hperformed : ∀ (w : World) s', w.files = s.world.files →
      Holds paths directory before file written (tr ++ [⟨c, (w.answer c).1, false⟩]) s' →
      post (w.answer c).1 state (tr ++ [⟨c, (w.answer c).1, false⟩]) s')
    (hstruck : ∀ failure s', strikes s.world.files c failure →
      Holds paths directory before file written (tr ++ [⟨c, .error failure, true⟩]) s' →
      post (.error failure) state (tr ++ [⟨c, .error failure, true⟩]) s') :
    (Action.ask c).Safe (storeContract strikes assumes paths update) post state tr s := by
  refine hholds.safe_ask (fun s₀ hfiles => ?_) hstruck
  have hturn := hleaves.turn?_eq (s₀.world.answer c).1 false
  have hafter : (s₀.world.answer c).2.files = s.world.files :=
    (hleaves.files_answer s₀.world).trans hfiles
  rw [hleaves.perform_eq]
  refine ⟨?_, hperformed s₀.world _ hfiles (hholds.of_files_eq hturn hafter)⟩
  simp only [hafter]
  exact .aside hturn

theorem conduct_work (hholds : Holds paths directory before file written tr s) {e : Event}
    (hturn : e.turn? = none) {fs' : FileSystem} (hheld : Held paths directory before fs' file) :
    Conduct paths update (.holding file) s.world.files e fs' :=
  .work hturn hholds.held.lead hholds.held.entry_staging hheld.entry_staging hheld.sound
    (hholds.held.changedOnly hheld)

theorem of_held (hholds : Holds paths directory before file written tr s) {e : Event}
    (hturn : e.turn? = none) {s' : Scene} (hheld : Held paths directory before s'.world.files file)
    {now : Bytes} (hdata : s'.world.files.dataOf file = now) :
    Holds paths directory before file now (tr ++ [e]) s' where
  standing := by rw [Trace.standing_append_singleton, Standing.next, hturn, hholds.standing]; rfl
  held := hheld
  data := hdata

theorem safe_write (hholds : Holds paths directory before file written tr s) (octets : Bytes)
    {post : Except Failure Unit → σ → Trace → Scene → Prop}
    (hperformed : ∀ tr' s', Holds paths directory before file (written ++ octets) tr' s' →
      post (.ok ()) state tr' s')
    (hstruck : ∀ failure tr' s', tr'.Disturbed →
      Holds paths directory before file written tr' s' → post (.error failure) state tr' s') :
    (Action.ask (.write file octets)).Safe (storeContract strikes assumes paths update) post state tr
      s := by
  refine hholds.safe_ask (fun s₀ hfiles => ?_) fun failure s' _ hafter =>
    hstruck failure _ s' (Trace.disturbed_append_struck tr _ failure) hafter
  obtain ⟨hheld, hdata⟩ := hholds.held.append octets
  have hperform : (s₀.perform (.write file octets)).2.world.files =
      s.world.files.append file octets := by
    rw [← hfiles]
    rfl
  refine ⟨?_, hperformed _ _ (hholds.of_held rfl (hperform ▸ hheld) ?_)⟩
  · rw [hperform]
    exact hholds.conduct_work rfl hheld
  · rw [hperform, hdata, hholds.data]

/-- A call that changes the entries of the store, or fails and changes nothing, leaves the store held.
    -/
theorem safe_changing (hholds : Holds paths directory before file written tr s) (c : Call)
    (effect : FileSystem → Except Failure FileSystem) (answer : Except Failure Unit → c.Answer)
    {post : Except Failure c.Reply → σ → Trace → Scene → Prop}
    (hperform : ∀ s₀ : Scene, s₀.perform c = (answer (s₀.world.changing (effect s₀.world.files)).1,
      { s₀ with world := (s₀.world.changing (effect s₀.world.files)).2 }))
    (hturn : ∀ a struck, Event.turn? ⟨c, a, struck⟩ = none)
    (hheld : ∀ fs', effect s.world.files = .ok fs' →
      Held paths directory before fs' file ∧ fs'.dataOf file = s.world.files.dataOf file)
    (hok : ∀ fs' tr' s', effect s.world.files = .ok fs' →
      Holds paths directory before file written tr' s' → s'.world.files = fs' →
      post (answer (.ok ())) state tr' s')
    (herror : ∀ failure tr' s', effect s.world.files = .error failure →
      Holds paths directory before file written tr' s' → s'.world.files = s.world.files →
      post (answer (.error failure)) state tr' s')
    (hstruck : ∀ failure tr' s', strikes s.world.files c failure → tr'.Disturbed →
      Holds paths directory before file written tr' s' → s'.world.files = s.world.files →
      post (.error failure) state tr' s') :
    (Action.ask c).Safe (storeContract strikes assumes paths update) post state tr s := by
  refine Action.safe_ask fun s₀ hdrift a struck s' hanswer => ?_
  have hfiles := hholds.files_of_drifts hdrift
  rw [hholds.standing, hfiles]
  cases hanswer with
  | @struck _ failure hstrikes =>
    rw [hfiles]
    refine ⟨.aside (hturn _ _), hstruck failure _ _ (hfiles ▸ hstrikes) ?_ ?_ hfiles⟩
    · exact Trace.disturbed_append_struck tr c failure
    · exact hholds.of_files_eq (hturn _ _) hfiles
  | performed =>
    rw [hperform, hfiles]
    cases heffect : effect s.world.files with
    | error failure =>
      simp only [World.changing, hfiles]
      exact ⟨.aside (hturn _ _), herror failure _ _ heffect (hholds.of_files_eq (hturn _ _) hfiles) hfiles⟩
    | ok fs' =>
      obtain ⟨hheld, hdata⟩ := hheld fs' heffect
      refine ⟨hholds.conduct_work (hturn _ _) hheld, hok fs' _ _ heffect ?_ rfl⟩
      exact hholds.of_held (hturn _ _) hheld (hdata.trans hholds.data)

/-- Removing the previous backup leaves none, and it fails only where there is none, where a directory
    lies in its place, or where a failure strikes. -/
theorem safe_unlinkBackup (hhonest : strikes.Honest)
    (hholds : Holds paths directory before file written tr s)
    {post : Except Failure Unit → σ → Trace → Scene → Prop}
    (hremoved : ∀ tr' s', Holds paths directory before file written tr' s' →
      s'.world.files.entry? (backupAt directory) = none → post (.ok ()) state tr' s')
    (hmissing : ∀ tr' s', Holds paths directory before file written tr' s' →
      s'.world.files.entry? (backupAt directory) = none →
      post (.error (.numbered .notFound)) state tr' s')
    (hfailed : ∀ failure tr' s', Holds paths directory before file written tr' s' →
      Hindered directory before tr' → failure ≠ .numbered .notFound →
      post (.error failure) state tr' s') :
    (Action.ask (.unlinkBackup paths.backup)).Safe (storeContract strikes assumes paths update) post
      state tr s := by
  have hunlink := unlink_of_locate hholds.held.lead.backup
  refine hholds.safe_changing (.unlinkBackup paths.backup) (·.unlink paths.backup) (fun a => a) (fun _ => rfl)
    (fun _ _ => by rfl) (fun fs' hok => (hholds.held.unlinkBackup hok).1) ?_ ?_ ?_
  · intro fs' tr' s' hok hafter hfiles
    exact hremoved tr' s' hafter (hfiles ▸ (hholds.held.unlinkBackup hok).2)
  · intro failure tr' s' herror hafter hfiles
    rw [hunlink] at herror
    split at herror
    · rename_i hentry
      cases herror
      exact hmissing tr' s' hafter (hfiles ▸ hentry)
    · rename_i hentry
      cases herror
      refine hfailed _ tr' s' hafter (.inr (.inr ?_)) (by simp [Failure.numbered])
      exact (hholds.held.changed.directory _).1 hentry
    · cases herror
  · intro failure tr' s' hstrikes hdisturbed hafter hfiles
    by_cases hmiss : failure = .numbered .notFound
    · subst hmiss
      have hentry := hhonest.missing _ _ hstrikes _ rfl
      rw [entryAt?_of_locate hholds.held.lead.backup] at hentry
      exact hmissing tr' s' hafter (hfiles ▸ hentry)
    · exact hfailed failure tr' s' hafter (.inl hdisturbed) hmiss

/-- Linking the primary file to the backup path fails only where there is no primary file, where
    something is in the way, or where a failure strikes. -/
theorem safe_linkBackup (hholds : Holds paths directory before file written tr s)
    (hnone : s.world.files.entry? (backupAt directory) = none)
    {post : Except Failure Unit → σ → Trace → Scene → Prop}
    (hlinked : ∀ tr' s', Holds paths directory before file written tr' s' → post (.ok ()) state tr' s')
    (hfailed : ∀ failure tr' s', Holds paths directory before file written tr' s' →
      s'.world.files.entry? (backupAt directory) = none →
      failure = .numbered .notFound ∨ Hindered directory before tr' →
      post (.error failure) state tr' s') :
    (Action.ask (.linkBackup paths.primary paths.backup)).Safe
      (storeContract strikes assumes paths update) post state tr s := by
  refine hholds.safe_changing (.linkBackup paths.primary paths.backup)
    (·.link paths.primary paths.backup) (fun a => a) (fun _ => rfl) (fun _ _ => by rfl) (fun fs' hok => hholds.held.linkBackup hok) ?_ ?_ ?_
  · intro fs' tr' s' hok hafter hfiles
    exact hlinked tr' s' hafter
  · intro failure tr' s' herror hafter hfiles
    refine hfailed failure tr' s' hafter (hfiles ▸ hnone) ?_
    simp only [link, hholds.held.lead.primary, hholds.held.lead.backup, Bind.bind, Except.bind,
      hnone] at herror
    split at herror
    · cases herror
      exact .inl rfl
    · rename_i entry hentry
      cases entry with
      | directory => exact .inr (.inr (.inl ((hholds.held.changed.directory _).1 hentry)))
      | file id => cases herror
  · intro failure tr' s' hstrikes hdisturbed hafter hfiles
    exact hfailed failure tr' s' hafter (hfiles ▸ hnone) (.inr (.inl hdisturbed))

/-- Copying the primary file to the backup path fails only where there is no primary file, where
    something is in the way, or where a failure strikes. -/
theorem safe_copyBackup (hholds : Holds paths directory before file written tr s)
    (hnone : s.world.files.entry? (backupAt directory) = none)
    {post : Except Failure Unit → σ → Trace → Scene → Prop}
    (hcopied : ∀ tr' s', Holds paths directory before file written tr' s' → post (.ok ()) state tr' s')
    (hfailed : ∀ failure tr' s', Holds paths directory before file written tr' s' →
      failure = .numbered .notFound ∨ Hindered directory before tr' →
      post (.error failure) state tr' s') :
    (Action.ask (.copyBackup paths.primary paths.backup)).Safe
      (storeContract strikes assumes paths update) post state tr s := by
  refine hholds.safe_changing (.copyBackup paths.primary paths.backup)
    (·.copy paths.primary paths.backup) (fun a => a) (fun _ => rfl) (fun _ _ => by rfl) (fun fs' hok => hholds.held.copyBackup hnone hok) ?_ ?_ ?_
  · intro fs' tr' s' hok hafter hfiles
    exact hcopied tr' s' hafter
  · intro failure tr' s' herror hafter hfiles
    refine hfailed failure tr' s' hafter ?_
    rcases hholds.held.copy_error hnone herror with hmissing | hdirectory
    · exact .inl hmissing
    · exact .inr (.inr (.inl ((hholds.held.changed.directory _).1 hdirectory)))
  · intro failure tr' s' hstrikes hdisturbed hafter hfiles
    exact hfailed failure tr' s' hafter (.inr (.inl hdisturbed))

/-- Removing the staging file lets go of the store; only a failure that strikes prevents it. -/
theorem safe_unlinkStaging (hholds : Holds paths directory before file written tr s)
    {post : Except Failure Unit → σ → Trace → Scene → Prop}
    (hremoved : ∀ tr' s', tr'.standing = .removed → post (.ok ()) state tr' s')
    (hstruck : ∀ failure tr' s', strikes s.world.files (.unlinkStaging paths.staging) failure →
      Holds paths directory before file written tr' s' →
      tr'.Disturbed → tr'.CleanUpFailed → post (.error failure) state tr' s') :
    (Action.ask (.unlinkStaging paths.staging)).Safe (storeContract strikes assumes paths update) post
      state tr s := by
  refine hholds.safe_ask (fun s₀ hfiles => ?_) fun failure s' hstrikes hafter => ?_
  · obtain ⟨fs', hunlink, hsound, hchanged, hnone⟩ := hholds.held.unlinkStaging
    have hperform : s₀.perform (.unlinkStaging paths.staging) =
        (.ok (), { s₀ with world := { s₀.world with files := fs' } }) := by
      simp only [Scene.perform, World.answer, World.changing, hfiles, hunlink]
      rfl
    rw [hperform]
    refine ⟨.remove hholds.held.lead hholds.held.entry_staging hnone hsound hchanged, ?_⟩
    refine hremoved _ _ ?_
    rw [Trace.standing_append_singleton]
    rfl
  · refine hstruck failure _ s' hstrikes hafter (Trace.disturbed_append_struck tr _ failure) ?_
    exact ⟨_, List.mem_append_right tr (List.mem_singleton_self _), ⟨failure, rfl⟩, .inr ⟨_, rfl⟩⟩

/-- Installing the staging file lets go of the store; only a directory in the way or a failure that
    strikes prevents it. -/
theorem safe_install (hholds : Holds paths directory before file written tr s)
    (hupdate : update (before.contents? paths.primary) = some written)
    {post : Except Failure Unit → σ → Trace → Scene → Prop}
    (hinstalled : ∀ tr' s', tr'.standing = .installed → post (.ok ()) state tr' s')
    (hfailed : ∀ failure tr' s', Holds paths directory before file written tr' s' →
      Hindered directory before tr' → post (.error failure) state tr' s') :
    (Action.ask (.install paths.staging paths.primary)).Safe
      (storeContract strikes assumes paths update) post state tr s := by
  refine hholds.safe_ask (fun s₀ hfiles => ?_) fun failure s' _ hafter =>
    hfailed failure _ s' hafter (.inl (Trace.disturbed_append_struck tr _ failure))
  by_cases hprimary : s.world.files.entry? (primaryAt directory) = some .directory
  · have hrename : s.world.files.rename paths.staging paths.primary =
        .error (.numbered .isDirectory) := by
      simp only [rename, hholds.held.lead.staging, hholds.held.lead.primary, Bind.bind, Except.bind,
        hholds.held.entry_staging, hprimary]
      rfl
    have hperform : s₀.perform (.install paths.staging paths.primary) =
        (.error (.numbered .isDirectory), s₀) := by
      simp only [Scene.perform, World.answer, World.changing, hfiles, hrename]
      rfl
    rw [hperform, hfiles]
    refine ⟨.aside rfl, hfailed _ _ _ (hholds.of_files_eq rfl hfiles) (.inr (.inl ?_))⟩
    exact (hholds.held.changed.directory _).1 hprimary
  · have hrename := hholds.held.rename_eq hprimary
    obtain ⟨hsound, hchanged, hnone, hcontents⟩ := hholds.held.install hrename
    have hperform : s₀.perform (.install paths.staging paths.primary) =
        (.ok (), { s₀ with world := { s₀.world with
          files := s.world.files.move (stagingAt directory) (primaryAt directory) } }) := by
      simp only [Scene.perform, World.answer, World.changing, hfiles, hrename]
      rfl
    rw [hperform]
    refine ⟨.install hholds.held.lead hholds.held.entry_staging hnone hsound hchanged ?_, ?_⟩
    · rw [hcontents, hholds.data, hholds.held.contents?_primary, hupdate]
    · refine hinstalled _ _ ?_
      rw [Trace.standing_append_singleton]
      rfl

end Holds

/-- A store that a transaction can update: its directory is there, nobody holds it, and no directory
    lies where a file belongs. -/
structure StorePaths.Ready (paths : StorePaths) (directory : Location) (fs : FileSystem) : Prop where
  lead : paths.LeadTo fs directory
  free : fs.entry? (stagingAt directory) = none
  clear : ¬Obstructed directory fs

namespace Action

variable {strikes : Strikes} {assumes : FileSystem → Prop} {paths : StorePaths}
  {update : Option Bytes → Option Bytes} {σ : Type} {state : σ} {tr : Trace} {s : Scene}

theorem safe_ask_aside (hhonest : strikes.Honest) {c : Call} (hleaves : c.LeavesFiles)
    (hpoint : c.faultPoint? = none) {post : Except Failure c.Reply → σ → Trace → Scene → Prop}
    (hpost : ∀ s₀, (storeContract strikes assumes paths update).Drifts tr.standing s s₀ → ∀ s',
      s'.session = s₀.session → s'.world.files = s₀.world.files →
      post (s₀.world.answer c).1 state (tr ++ [⟨c, (s₀.world.answer c).1, false⟩]) s') :
    (ask c).Safe (storeContract strikes assumes paths update) post state tr s := by
  refine safe_ask fun s₀ hdrift answer struck s' hanswer => ?_
  cases hanswer with
  | struck hstrikes => exact absurd hstrikes (Strikes.OnFiles.not_strikes hhonest.onFiles hpoint)
  | performed =>
    rw [hleaves.perform_eq]
    have hfiles := hleaves.files_answer s₀.world
    refine ⟨?_, hpost s₀ hdrift _ rfl hfiles⟩
    simp only [hfiles]
    exact .aside (hleaves.turn?_eq _ _)

theorem safe_note (hhonest : strikes.Honest) (event : Log.Event)
    {post : Except Failure Unit → σ → Trace → Scene → Prop}
    (hpost : ∀ s₀, (storeContract strikes assumes paths update).Drifts tr.standing s s₀ → ∀ s',
      s'.session = s₀.session → s'.world.files = s₀.world.files →
      post (.ok ()) state (tr ++ [⟨.log event, .ok (), false⟩]) s') :
    (note event).Safe (storeContract strikes assumes paths update) post state tr s :=
  safe_ask_aside hhonest (c := .log event) trivial rfl hpost

theorem safe_note_outside (hhonest : strikes.Honest) (event : Log.Event)
    (houtside : tr.standing = .outside) {post : Except Failure Unit → σ → Trace → Scene → Prop}
    (hpost : ∀ (tr' : Trace) s', tr'.standing = .outside → s'.session = s.session →
      post (.ok ()) state tr' s') :
    (note event).Safe (storeContract strikes assumes paths update) post state tr s := by
  refine safe_note hhonest event fun s₀ hdrift s' hsession _ => ?_
  refine hpost _ s' ?_ (hsession.trans hdrift.1)
  rw [Trace.standing_append_singleton, houtside]
  rfl

/-- Creating the staging file holds the store of the directory that the paths lead to; it fails only
    where the store is not free or where a failure strikes. -/
theorem safe_createStaging {root : Text} (hsound : ∀ fs, assumes fs → fs.Sound)
    (hstanding : tr.standing = .outside) {mode : Nat}
    {post : Except Failure FileId → σ → Trace → Scene → Prop}
    (hcreated : ∀ directory before file tr' s', assumes before →
      (StorePaths.locate root).LeadTo before directory →
      before.entry? (stagingAt directory) = none →
      Holds (StorePaths.locate root) directory before file [] tr' s' → post (.ok file) state tr' s')
    (hfailed : ∀ failure before tr' s', assumes before → tr'.standing = .outside →
      tr'.Disturbed ∨ (∀ directory, ¬(StorePaths.locate root).Ready directory before) →
      post (.error failure) state tr' s') :
    (ask (.createStaging (StorePaths.locate root).staging mode)).Safe
      (storeContract strikes assumes (StorePaths.locate root) update) post state tr s := by
  refine safe_ask fun s₀ hdrift answer struck s' hanswer => ?_
  have hassumes : assumes s₀.world.files := by
    have hfiles := hdrift.2
    rw [hstanding] at hfiles
    exact hfiles
  rw [hstanding]
  have houtside : ∀ failure struck, Trace.standing (tr ++
      [⟨.createStaging (StorePaths.locate root).staging mode, .error failure, struck⟩]) =
        .outside := by
    intro failure struck
    rw [Trace.standing_append_singleton, hstanding]
    rfl
  cases hanswer with
  | @struck _ failure hstrikes =>
    exact ⟨.aside rfl, hfailed failure _ _ _ hassumes (houtside failure true)
      (.inl (Trace.disturbed_append_struck tr _ failure))⟩
  | performed =>
    cases hcreate : s₀.world.files.create (StorePaths.locate root).staging mode with
    | ok created =>
      obtain ⟨file, fs'⟩ := created
      obtain ⟨directory, hlead, hfree, hchanged, hheld, hdata⟩ :=
        Held.of_create (hsound _ hassumes) hcreate
      have hperform : s₀.perform (.createStaging (StorePaths.locate root).staging mode) =
          (.ok file, { s₀ with world := { s₀.world with files := fs' } }) := by
        simp only [Scene.perform, World.answer, hcreate]
      rw [hperform]
      refine ⟨.create hlead hfree hheld.entry_staging hheld.fresh hheld.sound hchanged, ?_⟩
      refine hcreated directory _ file _ _ hassumes hlead hfree ⟨?_, hheld, hdata⟩
      rw [Trace.standing_append_singleton, hstanding]
      rfl
    | error failure =>
      have hperform : s₀.perform (.createStaging (StorePaths.locate root).staging mode) =
          (.error failure, s₀) := by
        simp only [Scene.perform, World.answer, hcreate]
      rw [hperform]
      refine ⟨.aside rfl, hfailed failure _ _ _ hassumes (houtside failure false) (.inr ?_)⟩
      intro directory hready
      simp [create, Bind.bind, Except.bind, hready.lead.staging, hready.free, pure, Except.pure] at hcreate

end Action

theorem Holds.safe_note (hhonest : strikes.Honest) (hholds : Holds paths directory before file written tr s)
    (event : Log.Event) {post : Except Failure Unit → σ → Trace → Scene → Prop}
    (hpost : ∀ tr' s', Holds paths directory before file written tr' s' →
      s'.world.files = s.world.files → post (.ok ()) state tr' s') :
    (Action.note event).Safe (storeContract strikes assumes paths update) post state tr s := by
  refine Action.safe_note hhonest event fun s₀ hdrift s' _ hfiles => ?_
  have hsame := hfiles.trans (hholds.files_of_drifts hdrift)
  exact hpost _ s' (hholds.of_files_eq rfl hsame) hsame

end CredentialStore
