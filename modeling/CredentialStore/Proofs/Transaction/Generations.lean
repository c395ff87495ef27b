import CredentialStore.Proofs.FileSystem.Data
import CredentialStore.Proofs.Run.Planned
import CredentialStore.Proofs.Store.Generations
import CredentialStore.Proofs.Transaction.Accounted
import CredentialStore.Proofs.Transaction.Stages
import CredentialStore.Scenario.Run

namespace CredentialStore

open CredentialStore.Action FileSystem StorePaths

/-- Whether a call leaves the entries of the file system and the permissions of its files as they are. -/
def Call.KeepsEntries (c : Call) : Prop :=
  c.LeavesFiles ∨ c.Asks ∨ c.Writes

theorem Scene.Answers.sameButData {strikes : Strikes} {s s' : Scene} {e : Event}
    (hanswer : Scene.Answers strikes s e s') (hkeeps : e.call.KeepsEntries) :
    s.world.files.SameButData s'.world.files := by
  cases hanswer with
  | struck => exact .refl _
  | performed c =>
    obtain hleaves | hasks | hwrites := hkeeps
    · rw [hleaves.perform_eq, hleaves.files_answer]
      exact .refl _
    · rw [hasks.files_perform]
      exact .refl _
    · cases c with
      | write id octets => exact .append _ _ _
      | _ => exact False.elim hwrites

theorem Program.Runs.sameButData {strikes : Strikes} {α : Type} {p : Program α} {s s' : Scene} {tr : Trace}
    {value : α} (hruns : p.Runs strikes s tr value s') (hkeeps : ∀ e ∈ tr, e.call.KeepsEntries) :
    s.world.files.SameButData s'.world.files := by
  induction hruns with
  | done => exact .refl _
  | call hanswer hrest ih =>
    exact (hanswer.sameButData (hkeeps _ List.mem_cons_self)).trans
      (ih fun e he => hkeeps e (List.mem_cons_of_mem _ he))

theorem Action.Runs.sameButData {strikes : Strikes} {σ α : Type} {action : Action σ α} {state state' : σ}
    {s s' : Scene} {tr : Trace} {outcome : Except Failure α} (huses : action.Uses Call.KeepsEntries)
    (hruns : action.Runs strikes state s tr outcome state' s') : s.world.files.SameButData s'.world.files :=
  Program.Runs.sameButData hruns (hruns.calls huses)

namespace Transaction

variable {t : Transaction} {secrets : Secrets} {strikes : Strikes} {state state' : Progress} {s s' : Scene}
  {tr : Trace}

theorem sameButData_of_opening {outcome : Except Failure Secrets}
    (hruns : t.opening.Runs strikes state s tr outcome state' s') :
    s.world.files.SameButData s'.world.files :=
  hruns.sameButData (uses_opening (.inl trivial) fun _ hasks => .inr (.inl hasks))

theorem sameButData_of_prepare {outcome : Except Failure (Option Record)}
    (hruns : (t.prepare secrets).Runs strikes state s tr outcome state' s') :
    s.world.files.SameButData s'.world.files := by
  refine hruns.sameButData (uses_prepare (fun c hmerges => ?_) (fun c hcloses => ?_) (.inl trivial))
  · cases c <;> first | exact False.elim hmerges | exact .inl trivial | exact .inr (.inr trivial)
  · cases c <;> first | exact False.elim hcloses | exact .inl trivial

/-- A transaction that is applied creates the staging file, prepares it and commits it. -/
theorem stages_of_applied {record : Option Record}
    (hruns : (t.apply secrets).Runs strikes state s tr (.ok record) state' s') :
    ∃ file created committing s₁ last state₁ state₂,
      s.world.files.create t.settings.paths.staging t.settings.stagingMode = .ok (file, created) ∧
      created.SameButData s₁.world.files ∧
      (Commit.commit t.settings.paths : Action Progress Unit).Runs strikes state₁ s₁ last (.ok committing)
        state₂ s' := by
  obtain ⟨_, _, _, _, _, -, hgate, hheld⟩ := (Runs.of_modify_bind hruns).of_bind_ok
  obtain ⟨_, -, hacquire⟩ := Runs.of_onPart hgate
  obtain ⟨file, hcreate, -⟩ := Rewrite.create_of_acquire hacquire
  obtain ⟨_, _, s₁, _, _, -, hwork, hready⟩ := (Runs.of_modify_bind hheld).of_bind_ok
  have hprepared := sameButData_of_prepare (Runs.of_orCleanUp_ok hwork)
  have hreleased : Action.Runs strikes (do
        Commit.commit t.settings.paths
        enter .committed
        pure _) _ s₁ _ (.ok record) state' s' := hready
  obtain ⟨committing, _, _, _, _, -, hcommit, hlast⟩ := hreleased.of_bind_ok
  have hentered := Runs.of_modify_bind hlast
  obtain ⟨-, -, -, rfl⟩ := Runs.of_pure hentered
  exact ⟨file, _, committing, s₁, _, _, _, hcreate, hprepared, hcommit⟩

/-- An execution that reports a commit applied its transaction. -/
theorem applied_of_execute {report : Report} (hcommitted : report.isCommitted = true)
    (hruns : t.execute.Runs strikes state s tr (.ok report) state' s') :
    ∃ secrets record s₁ s₂ middle state₁ state₂, s.world.files.SameButData s₁.world.files ∧
      (t.apply secrets).Runs strikes state₁ s₁ middle (.ok record) state₂ s₂ ∧
      s'.world.files = s₂.world.files := by
  obtain ⟨result, _, _, _, _, -, hattempt, hrest⟩ := hruns.of_bind_ok
  obtain ⟨_, hresult, hrun⟩ := Runs.of_attempt hattempt
  cases hresult
  rcases result with failure | record
  · cases failure with
    | credential error =>
      obtain ⟨_, _, _, _, _, -, -, hlast⟩ := (Runs.of_modify_bind (Runs.of_get_bind hrest)).of_bind_ok
      obtain ⟨-, hreport, -⟩ := Runs.of_pure hlast
      cases hreport
      exact absurd (of_decide_eq_true hcommitted) (ofError_ne_committed error)
    | _ => cases (Runs.of_throw hrest).2.1
  · rw [run_eq] at hrun
    obtain ⟨secrets, _, s₁, _, _, -, hopening, happly⟩ := hrun.of_bind_ok
    obtain ⟨_, _, _, _, _, -, hnote, hlast⟩ := Runs.of_bind_ok hrest
    have hreported := Runs.of_get_bind hlast
    obtain ⟨-, -, -, rfl⟩ := Runs.of_pure hreported
    exact ⟨secrets, record, s₁, _, _, _, _, sameButData_of_opening hopening, happly, files_of_note hnote⟩

/-- The permissions of a staging file, bit by bit. -/
theorem testBit_mode (settings : Settings) (umask k : Nat) :
    (settings.stagingMode &&& (0o7777 ^^^ (umask &&& 0o7777))).testBit k =
      (settings.stagingMode.testBit k && !umask.testBit k) := by
  have hmask : Nat.testBit 0o7777 k = decide (k < 12) := Nat.testBit_two_pow_sub_one 12 k
  rw [Nat.testBit_and, Nat.testBit_xor, Nat.testBit_and, hmask]
  by_cases hk : k < 12
  · simp [hk]
  · have hle : settings.stagingMode < 2 ^ k := calc
      settings.stagingMode ≤ 0o777 := settings.stagingMode_le
      _ < 2 ^ 12 := by decide
      _ ≤ 2 ^ k := Nat.pow_le_pow_right (by decide) (Nat.le_of_not_lt hk)
    simp [Nat.testBit_lt_two_pow hle]

/-- After a commit the primary file has the permissions of the settings, less those of the mask. -/
theorem mode_of_committed {report : Report} (hsound : s.world.files.Sound)
    (hcommitted : report.isCommitted = true)
    (hruns : t.execute.Runs .faithful state s tr (.ok report) state' s') :
    ∃ directory file, t.settings.paths.LeadTo s.world.files directory ∧
      s'.world.files.fileAt? (primaryAt directory) = some file ∧
      ∀ k, file.mode.testBit k = (t.settings.stagingMode.testBit k && !s.world.files.umask.testBit k) := by
  obtain ⟨secrets, record, s₁, s₂, _, _, _, hopened, happly, hlast⟩ := applied_of_execute hcommitted hruns
  obtain ⟨id, created, _, s₃, _, _, _, hcreate, hprepared, hcommit⟩ := stages_of_applied happly
  obtain ⟨directory, hlead, -, -, hheld, -⟩ := Held.of_create (hopened.sound hsound) hcreate
  have hentry : s₃.world.files.entry? (stagingAt directory) = some (.file id) := by
    rw [hprepared.entry?_eq, hheld.entry_staging]
  have hreplaces := Commit.replaces_of_commit Strikes.honest_faithful
    ⟨hprepared.sound hheld.sound, hprepared.leadTo hheld.lead, id, hentry⟩ hcommit
  have hmode := hprepared.mode id
  rw [file?_of_create hcreate, Option.map_some, Option.map_eq_some_iff] at hmode
  obtain ⟨file, hfile, hmode⟩ := hmode
  refine ⟨directory, file, ?_, ?_, fun k => ?_⟩
  · exact hlead.of_directory_iff fun there => by rw [hopened.entry?_eq]
  · rw [hlast, hreplaces.primary, fileAt?_of_file hentry, hfile]
  · rw [hmode, hopened.umask]
    exact testBit_mode t.settings s.world.files.umask k

/-- A commit keeps one generation before the present one, and the same one whether the backup was linked or
    copied; the primary file that a transaction leaves has the permissions of its settings. -/
theorem commits_keep_generations :
    (∀ {σ : Type} {paths : StorePaths} {directory : Location} {s s' : Scene} {state state' : σ} {tr : Trace},
      Commit.Staged paths directory s.world.files →
      (Commit.commit paths : Action σ Unit).Runs .faithful state s tr (.ok ()) state' s' →
        Commit.Replaces directory s.world.files s'.world.files ∧
          ∀ {s'' : Scene} {state'' : σ} {tr' : Trace},
            (Commit.commit paths : Action σ Unit).Runs .faithful state s tr' (.ok ()) state'' s'' →
              s'.world.files.Alike s''.world.files) ∧
    ∀ {t : Transaction} {state state' : Progress} {s s' : Scene} {tr : Trace} {report : Report},
      s.world.files.Sound → report.isCommitted = true →
      t.execute.Runs .faithful state s tr (.ok report) state' s' →
        ∃ directory file, t.settings.paths.LeadTo s.world.files directory ∧
          s'.world.files.fileAt? (primaryAt directory) = some file ∧
          ∀ k, file.mode.testBit k = (t.settings.stagingMode.testBit k && !s.world.files.umask.testBit k) := by
  refine ⟨fun hstaged hruns => ?_, mode_of_committed⟩
  have hreplaces := Commit.replaces_of_commit Strikes.honest_faithful hstaged hruns
  exact ⟨hreplaces, fun hruns' =>
    hreplaces.alike (Commit.replaces_of_commit Strikes.honest_faithful hstaged hruns')⟩

/-- A store with all three files, each with permissions of its own. -/
def stagedScene : Scene where
  world := {
    files := {
      entries := [([[0x73, 0x72, 0x76]], .directory),
        ([[0x73, 0x72, 0x76], StorePaths.primaryOctets], .file 0),
        ([[0x73, 0x72, 0x76], StorePaths.backupOctets], .file 1),
        ([[0x73, 0x72, 0x76], StorePaths.stagingOctets], .file 2)]
      files := [⟨[0x61, 0x0A], 0o600⟩, ⟨[0x62, 0x0A], 0o644⟩, ⟨[0x63, 0x0A], 0o640⟩]
      umask := 0o22 } }
  session := {}

/-- The same store where links cannot be made. -/
def unlinkableScene : Scene :=
  { stagedScene with session.faults := [(.linkBackup, { failure := .numbered .crossDevice })] }

theorem staged_stagedScene :
    Commit.Staged sampleRemoval.settings.paths [[0x73, 0x72, 0x76]] stagedScene.world.files where
  sound := by
    refine Sound.of_entries (fun there id hmem => ?_) (by decide)
    simp only [stagedScene, List.mem_cons, Prod.mk.injEq, reduceCtorEq, and_false, false_or,
      List.not_mem_nil, or_false, Entry.file.injEq] at hmem
    rcases hmem with ⟨-, rfl⟩ | ⟨-, rfl⟩ | ⟨-, rfl⟩ <;> decide
  lead := ⟨by decide, by decide +kernel, by decide +kernel, by decide +kernel⟩
  staging := ⟨2, by decide⟩

theorem admits_unlinkable : Strikes.faithful.Admits unlinkableScene.session.faults := by
  refine Strikes.admits_singleton fun fs c hpoint => ⟨⟨by rw [hpoint]; rfl, fun _ h => by cases h⟩, ?_⟩
  intro hmissing
  cases hmissing

/-- The three files of a store are committed by a link and by a copy, and a removal is committed. -/
theorem stagedScene_keeps_generations :
    (∃ tr tr' s' s'',
      (Commit.commit sampleRemoval.settings.paths : Action Unit Unit).Runs .faithful () stagedScene tr (.ok ()) ()
        s' ∧
      (Commit.commit sampleRemoval.settings.paths : Action Unit Unit).Runs .faithful () stagedScene tr' (.ok ())
        () s'' ∧
      (∃ e ∈ tr', e.call = .copyBackup sampleRemoval.settings.paths.primary sampleRemoval.settings.paths.backup) ∧
      Commit.Replaces [[0x73, 0x72, 0x76]] stagedScene.world.files s'.world.files ∧
      s'.world.files.Alike s''.world.files) ∧
    ∃ report progress tr s' directory file,
      sampleRemoval.execute.Runs .faithful {} sampleScene tr (.ok report) progress s' ∧
      report.isCommitted = true ∧ sampleRemoval.settings.paths.LeadTo sampleScene.world.files directory ∧
      s'.world.files.fileAt? (primaryAt directory) = some file ∧
      ∀ k, file.mode.testBit k = (Nat.testBit 0o640 k && !Nat.testBit 0o22 k) := by
  have hlinked := stagedScene.runs_trace () (Commit.commit sampleRemoval.settings.paths)
    (Strikes.admits_nil .faithful)
  have hcopied := unlinkableScene.runs_trace () (Commit.commit sampleRemoval.settings.paths) admits_unlinkable
  have hok : (stagedScene.run () (Commit.commit sampleRemoval.settings.paths)).1.1 = .ok () := by decide +kernel
  have hok' : (unlinkableScene.run () (Commit.commit sampleRemoval.settings.paths)).1.1 = .ok () := by
    decide +kernel
  have hcopies : ∃ e ∈ unlinkableScene.trace () (Commit.commit sampleRemoval.settings.paths),
      e.call = .copyBackup sampleRemoval.settings.paths.primary sampleRemoval.settings.paths.backup := by
    decide +kernel
  generalize stagedScene.run () (Commit.commit sampleRemoval.settings.paths) = linked at hlinked hok
  generalize unlinkableScene.run () (Commit.commit sampleRemoval.settings.paths) = copied at hcopied hok'
  obtain ⟨⟨_, _⟩, s'⟩ := linked
  obtain ⟨⟨_, _⟩, s''⟩ := copied
  cases hok
  cases hok'
  obtain ⟨hreplaces, halike⟩ := commits_keep_generations.1 staged_stagedScene hlinked
  refine ⟨⟨_, _, _, _, hlinked, hcopied, hcopies, hreplaces, halike hcopied⟩, ?_⟩
  obtain ⟨tr, hruns, -⟩ := sampleScene.runs_of_run .faithful {} sampleRemoval.execute rfl
  have hreported : Committed (sampleScene.run {} sampleRemoval.execute).1.1 := by decide +kernel
  obtain ⟨report, hreport, hcommitted⟩ := hreported
  generalize sampleScene.run {} sampleRemoval.execute = result at hruns hreport
  obtain ⟨⟨outcome, progress⟩, final⟩ := result
  cases hreport
  obtain ⟨directory, file, hlead, hfile, hmode⟩ :=
    commits_keep_generations.2 sound_sampleScene hcommitted hruns
  exact ⟨report, progress, tr, final, directory, file, hruns, hcommitted, hlead, hfile, hmode⟩

/-- A store whose staging file is another name of its primary file. -/
def linkedScene : Scene where
  world := {
    files := {
      entries := [([[0x73, 0x72, 0x76]], .directory),
        ([[0x73, 0x72, 0x76], StorePaths.primaryOctets], .file 0),
        ([[0x73, 0x72, 0x76], StorePaths.stagingOctets], .file 0)]
      files := [⟨[0x61, 0x0A], 0o600⟩]
      umask := 0o22 } }
  session := {}

theorem staged_linkedScene :
    Commit.Staged sampleRemoval.settings.paths [[0x73, 0x72, 0x76]] linkedScene.world.files where
  sound := by
    refine Sound.of_entries (fun there id hmem => ?_) (by decide)
    simp only [linkedScene, List.mem_cons, Prod.mk.injEq, reduceCtorEq, and_false, false_or,
      List.not_mem_nil, or_false, Entry.file.injEq] at hmem
    rcases hmem with ⟨-, rfl⟩ | ⟨-, rfl⟩ <;> decide
  lead := ⟨by decide, by decide +kernel, by decide +kernel, by decide +kernel⟩
  staging := ⟨0, by decide⟩

/-- The sample removal, and someone who puts a file of theirs in the place of its staging file before it reads the
    store. -/
def disturbedRemoval : Scenario.Play where
  stage := { world := sampleScene.world, serverRoot := text "/srv" }
  session := {}
  waiting := [(0, fun stage =>
    ([], (stage.arrange (.put sampleRemoval.settings.paths.staging ⟨[0x62, 0x0A], 0o644⟩)).2))]
  prompt := 0
  atPrompt := none

/-- A commit keeps the staging file where it is another name of the primary one, since a file is not renamed to
    itself; and a committed transaction leaves permissions that are not its own where its staging file was
    replaced. -/
theorem generations_need_own_staging :
    (∃ tr s', Commit.Staged sampleRemoval.settings.paths [[0x73, 0x72, 0x76]] linkedScene.world.files ∧
      (Commit.commit sampleRemoval.settings.paths : Action Unit Unit).Runs .faithful () linkedScene tr (.ok ()) ()
        s' ∧
      s'.world.files.entry? (stagingAt [[0x73, 0x72, 0x76]]) = some (.file 0)) ∧
    ∃ report phase played file,
      disturbedRemoval.run sampleRemoval .execute = (.reported report, phase, played) ∧
      report.isCommitted = true ∧
      played.stage.world.files.fileAt? (primaryAt [[0x73, 0x72, 0x76]]) = some file ∧
      ¬∀ k, file.mode.testBit k =
        (sampleRemoval.settings.stagingMode.testBit k && !sampleScene.world.files.umask.testBit k) := by
  constructor
  · have hruns := linkedScene.runs_trace () (Commit.commit sampleRemoval.settings.paths)
      (Strikes.admits_nil .faithful)
    have hok : (linkedScene.run () (Commit.commit sampleRemoval.settings.paths)).1.1 = .ok () := by decide +kernel
    have hstaging : (linkedScene.run () (Commit.commit sampleRemoval.settings.paths)).2.world.files.entry?
        (stagingAt [[0x73, 0x72, 0x76]]) = some (.file 0) := by decide +kernel
    generalize linkedScene.run () (Commit.commit sampleRemoval.settings.paths) = result at hruns hok hstaging
    obtain ⟨⟨_, _⟩, _⟩ := result
    cases hok
    exact ⟨_, _, staged_linkedScene, hruns, hstaging⟩
  · have hreported : ∃ report, (disturbedRemoval.run sampleRemoval .execute).1 = .reported report ∧
        report.isCommitted = true :=
      ⟨{ outcome := .committed, operation := .delete, identity := text "al", realm := text "sys",
         phase := .committed }, by decide +kernel, rfl⟩
    have hfile : (disturbedRemoval.run sampleRemoval .execute).2.2.stage.world.files.fileAt?
        (primaryAt [[0x73, 0x72, 0x76]]) = some ⟨[0x62, 0x0A], 0o644⟩ := by decide +kernel
    generalize disturbedRemoval.run sampleRemoval .execute = result at hreported hfile
    obtain ⟨ending, phase, played⟩ := result
    obtain ⟨report, hreport, hcommitted⟩ := hreported
    cases hreport
    refine ⟨report, phase, played, _, rfl, hcommitted, hfile, fun hmode => ?_⟩
    exact absurd (hmode 2) (by decide)

end Transaction

end CredentialStore
