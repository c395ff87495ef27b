import CredentialStore.Proofs.FileSystem.Growth
import CredentialStore.Proofs.Interleaving.Basic
import CredentialStore.Proofs.Transaction.Atomic

namespace CredentialStore

open FileSystem StorePaths Ensemble Transaction

namespace Conduct

variable {paths : StorePaths} {update : Option Bytes → Option Bytes} {st : Standing}
  {fs fs' : FileSystem} {e : Event}

theorem sound (hconduct : Conduct paths update st fs e fs') (hsound : fs.Sound) : fs'.Sound := by
  cases hconduct <;> assumption

/-- The primary file changes by the update and only when a staging file is installed. -/
theorem contents?_primary (hconduct : Conduct paths update st fs e fs') (hsound : fs.Sound) :
    fs'.contents? paths.primary = if e.turn? = some .installed then
      update (fs.contents? paths.primary) else fs.contents? paths.primary := by
  cases hconduct with
  | aside hturn => simp [hturn]
  | create hlead _ _ _ hsound' hchanged =>
    rw [hchanged.contents?_primary hsound hsound' hlead (by simp)]
    simp [Event.turn?]
  | work hturn hlead _ _ hsound' hchanged =>
    rw [hchanged.contents?_primary hsound hsound' hlead (by simp)]
    simp [hturn]
  | remove hlead _ _ hsound' hchanged =>
    rw [hchanged.contents?_primary hsound hsound' hlead (by simp)]
    simp [Event.turn?]
  | install _ _ _ _ _ hupdate => simp [Event.turn?, hupdate]

/-- A program that neither holds the store nor comes to hold it leaves the files as they are. -/
theorem eq_of_not_holding (hconduct : Conduct paths update st fs e fs')
    (hbefore : ∀ file, st ≠ .holding file) (hafter : ∀ file, st.next e ≠ .holding file) :
    fs' = fs := by
  cases hconduct with
  | aside => rfl
  | create => exact absurd rfl (hafter _)
  | work => exact absurd rfl (hbefore _)
  | remove => exact absurd rfl (hbefore _)
  | install => exact absurd rfl (hbefore _)

theorem free_of_create (hconduct : Conduct paths update st fs e fs') {file : FileId}
    (hbefore : ∀ file, st ≠ .holding file) (hafter : st.next e = .holding file) :
    ∃ directory, paths.LeadTo fs directory ∧ fs.entry? (stagingAt directory) = none := by
  cases hconduct with
  | aside hturn =>
    rw [Standing.next, hturn, Option.getD_none] at hafter
    exact absurd hafter (hbefore _)
  | create hlead hfree => exact ⟨_, hlead, hfree⟩
  | work => exact absurd rfl (hbefore _)
  | remove => exact absurd rfl (hbefore _)
  | install => exact absurd rfl (hbefore _)

/-- Only a program that holds the store removes or installs a staging file, and the file that lies there
    is its own. -/
theorem holding_of_released (hconduct : Conduct paths update st fs e fs')
    (hturn : e.turn? = some .removed ∨ e.turn? = some .installed) :
    ∃ file, st = .holding file ∧ fs.fileId? paths.staging = some file := by
  cases hconduct with
  | aside hnone => rcases hturn with hturn | hturn <;> cases hnone.symm.trans hturn
  | create => rcases hturn with hturn | hturn <;> cases hturn
  | work hnone => rcases hturn with hturn | hturn <;> cases hnone.symm.trans hturn
  | remove hlead hentry => exact ⟨_, rfl, by rw [fileId?_of_locate hlead.staging, hentry]⟩
  | install hlead hentry => exact ⟨_, rfl, by rw [fileId?_of_locate hlead.staging, hentry]⟩

theorem next_eq_installed_iff (hconduct : Conduct paths update st fs e fs') :
    st.next e = .installed ↔ st = .installed ∨ e.turn? = some .installed := by
  cases hconduct with
  | aside hturn => simp [Standing.next, hturn]
  | work hturn => simp [Standing.next, hturn]
  | create => simp [Standing.next, Event.turn?]
  | remove => simp [Standing.next, Event.turn?]
  | install => simp [Standing.next, Event.turn?]

theorem staging_of_holding (hconduct : Conduct paths update st fs e fs') {file : FileId}
    (hbefore : st = .holding file → ∃ directory, paths.LeadTo fs directory ∧
      fs.entry? (stagingAt directory) = some (.file file))
    (hafter : st.next e = .holding file) : ∃ directory, paths.LeadTo fs' directory ∧
      fs'.entry? (stagingAt directory) = some (.file file) := by
  cases hconduct with
  | aside hturn =>
    rw [Standing.next, hturn, Option.getD_none] at hafter
    exact hbefore hafter
  | create hlead _ hentry _ _ hchanged =>
    cases hafter
    exact ⟨_, hlead.of_changedOnly hchanged, hentry⟩
  | work hturn hlead _ hentry' _ hchanged =>
    rw [Standing.next, hturn, Option.getD_none] at hafter
    cases hafter
    exact ⟨_, hlead.of_changedOnly hchanged, hentry'⟩
  | remove => cases hafter
  | install => cases hafter

/-- A file that a step creates is a new one that exists from then on. -/
theorem file_of_create (hconduct : Conduct paths update st fs e fs') {file : FileId}
    (hturn : e.turn? = some (.holding file)) :
    fs.files.length ≤ file ∧ file < fs'.files.length := by
  cases hconduct with
  | create hlead hfree hentry hfresh hsound =>
    cases hturn
    exact ⟨hfresh, hsound.file_lt _ _ hentry⟩
  | aside hnone => cases hnone.symm.trans hturn
  | work hnone => cases hnone.symm.trans hturn
  | remove => cases hturn
  | install => cases hturn

end Conduct

namespace Ensemble

variable {ι : Type}

/-- Transactions on one world, each in a session of its own, before any of them has begun. -/
def ofTransactions (t : ι → Transaction) (session : ι → Session) (world : World) :
    Ensemble ι (Except Failure Transaction.Report × Transaction.Progress) where
  world
  session
  program i := (t i).execute {}
  live _ := True

/-- The updates of the transactions that installed a staging file, one after the other. -/
def updated (t : ι → Transaction) (session : ι → Session) (steps : List (ι × Event))
    (contents : Option Bytes) : Option Bytes :=
  (installs steps).foldl (fun contents i => (t i).updateIn (session i) contents) contents

theorem updated_append (t : ι → Transaction) (session : ι → Session) (steps : List (ι × Event)) (i : ι)
    (e : Event) (contents : Option Bytes) :
    updated t session (steps ++ [(i, e)]) contents = if e.turn? = some .installed then
      (t i).updateIn (session i) (updated t session steps contents)
    else updated t session steps contents := by
  by_cases hturn : e.turn? = some .installed <;> simp [updated, installs_append, hturn]

variable [DecidableEq ι]

/-- Whether a program created a file as its staging file. -/
def Created (i : ι) (file : FileId) (steps : List (ι × Event)) : Prop :=
  ∃ e ∈ own i steps, e.turn? = some (.holding file)

theorem created_append_iff {i j : ι} {file : FileId} {steps : List (ι × Event)} {e : Event} :
    Created j file (steps ++ [(i, e)]) ↔
      Created j file steps ∨ j = i ∧ e.turn? = some (.holding file) := by
  by_cases hne : j = i
  · subst hne
    simp [Created, own_append_self, or_and_right, exists_or]
  · simp [Created, own_append_of_ne hne, hne]

variable {t : ι → Transaction} {session : ι → Session} {paths : StorePaths} {first : FileSystem}
  {steps : List (ι × Event)} {m m' : Ensemble ι (Except Failure Transaction.Report × Transaction.Progress)}

/-- What holds at every point of a run of transactions on one store. -/
structure Serial (t : ι → Transaction) (session : ι → Session) (paths : StorePaths)
    (first : FileSystem) (steps : List (ι × Event))
    (m : Ensemble ι (Except Failure Transaction.Report × Transaction.Progress)) : Prop where
  sound : m.world.files.Sound
  /-- Every transaction goes on keeping to its contract. -/
  safe : ∀ i, (m.program i).Safe
    (storeContract .systemErrors FileSystem.Sound paths ((t i).updateIn (session i)))
    (fun value tr _ => ∃ outcome, (t i).Reports outcome value.1 ∧
      (t i).Ended FileSystem.Sound (session i) outcome tr)
    (own i steps) ⟨m.world, m.session i⟩
  /-- The staging file of whoever holds the store lies at the staging path. -/
  staging : ∀ i file, (own i steps).standing = .holding file → ∃ directory,
    paths.LeadTo m.world.files directory ∧ m.world.files.entry? (stagingAt directory) = some (.file file)
  /-- Only one program at a time holds the store. -/
  alone : ∀ i j file file', (own i steps).standing = .holding file →
    (own j steps).standing = .holding file' → i = j
  contents : m.world.files.contents? paths.primary = updated t session steps (first.contents? paths.primary)
  installed : ∀ i, i ∈ installs steps ↔ (own i steps).standing = .installed
  nodup : (installs steps).Nodup
  created_lt : ∀ i file, Created i file steps → file < m.world.files.files.length
  creator : ∀ i j file, Created i file steps → Created j file steps → i = j
  /-- Whoever holds the store holds it through a file that it created. -/
  created : ∀ i file, (own i steps).standing = .holding file → Created i file steps

namespace Serial

theorem start (hpaths : ∀ i, (t i).settings.paths = paths) {world : World} (hsound : world.files.Sound) :
    Serial t session paths world.files [] (ofTransactions t session world) where
  sound := hsound
  safe i := by
    rw [← hpaths i]
    exact Transaction.safe_execute (s := ⟨world, session i⟩) (t i) Strikes.honest_systemErrors
      Strikes.onlySystem_systemErrors (fun _ hfs => hfs) rfl hsound
  staging i file hholding := by cases hholding
  alone i j file file' hholding := by cases hholding
  contents := rfl
  installed i := by simp
  nodup := List.nodup_nil
  created_lt i file hcreated := by
    obtain ⟨e, he, -⟩ := hcreated
    cases he
  creator i j file hcreated := by
    obtain ⟨e, he, -⟩ := hcreated
    cases he
  created i file hholding := by cases hholding

theorem stop (hserial : Serial t session paths first steps m) (i : ι) :
    Serial t session paths first steps (m.stop i) := by
  obtain ⟨hsound, hsafe, hstaging, halone, hcontents, hinstalled, hnodup, hlt, hcreator, hcreated⟩ := hserial
  exact ⟨hsound, hsafe, hstaging, halone, hcontents, hinstalled, hnodup, hlt, hcreator, hcreated⟩

theorem conduct (hserial : Serial t session paths first steps m) {i : ι} {e : Event}
    (hstep : Step .systemErrors m (i, e) m') :
    Conduct paths ((t i).updateIn (session i)) (own i steps).standing m.world.files e m'.world.files ∧
      (m'.program i).Safe
        (storeContract .systemErrors FileSystem.Sound paths ((t i).updateIn (session i)))
        (fun value tr _ => ∃ outcome, (t i).Reports outcome value.1 ∧
          (t i).Ended FileSystem.Sound (session i) outcome tr)
        (own i steps ++ [e]) ⟨m'.world, m'.session i⟩ ∧
      (∀ j, j ≠ i → m'.program j = m.program j ∧ m'.session j = m.session j) ∧
      m.world.files.files.length ≤ m'.world.files.files.length := by
  cases hstep with
  | @call _ _ next s' hlive hprogram hanswer =>
    have hsafe := hserial.safe i
    rw [hprogram] at hsafe
    have hdrift : (storeContract .systemErrors FileSystem.Sound paths
        ((t i).updateIn (session i))).Drifts (own i steps).standing ⟨m.world, m.session i⟩
          ⟨m.world, m.session i⟩ := by
      refine ⟨rfl, ?_⟩
      cases (own i steps).standing with
      | outside => exact hserial.sound
      | holding file => rfl
      | removed => trivial
      | installed => trivial
    obtain ⟨hconduct, hnext⟩ := hsafe _ hdrift e.answer e.struck s' hanswer
    refine ⟨hconduct, ?_, fun j hne => ⟨?_, ?_⟩, hanswer.length_files_le⟩
    · simpa using hnext
    · exact Function.update_of_ne hne _ _
    · exact Function.update_of_ne hne _ _

/-- While one program holds the store, no other comes to hold it. -/
theorem next_ne_holding (hserial : Serial t session paths first steps m) {i j : ι} {e : Event}
    (hstep : Step .systemErrors m (i, e) m') (hne : j ≠ i) {file : FileId}
    (hholding : (own j steps).standing = .holding file) (other : FileId) :
    (own i steps).standing.next e ≠ .holding other := by
  intro hnext
  obtain ⟨hconduct, -⟩ := hserial.conduct hstep
  have hbefore : ∀ file, (own i steps).standing ≠ .holding file := fun file' hfile =>
    hne (hserial.alone j i file file' hholding hfile)
  obtain ⟨directory, hlead, hfree⟩ := hconduct.free_of_create hbefore hnext
  obtain ⟨directory', hlead', hentry⟩ := hserial.staging j file hholding
  rw [← hlead.unique hlead', hfree] at hentry
  cases hentry

/-- While one program holds the store, the steps of the others leave the files as they are. -/
theorem files_eq_of_holding (hserial : Serial t session paths first steps m) {i j : ι} {e : Event}
    (hstep : Step .systemErrors m (i, e) m') (hne : j ≠ i) {file : FileId}
    (hholding : (own j steps).standing = .holding file) : m'.world.files = m.world.files :=
  (hserial.conduct hstep).1.eq_of_not_holding
    (fun file' hfile => hne (hserial.alone j i file file' hholding hfile))
    (hserial.next_ne_holding hstep hne hholding)

theorem alone_step (hserial : Serial t session paths first steps m) {i : ι} {e : Event}
    (hstep : Step .systemErrors m (i, e) m') {j k : ι} {file file' : FileId}
    (hj : (own j (steps ++ [(i, e)])).standing = .holding file)
    (hk : (own k (steps ++ [(i, e)])).standing = .holding file') : j = k := by
  refine eq_of_standing_append (fun st => ∃ file, st = .holding file) ?_ ?_ ⟨file, hj⟩ ⟨file', hk⟩
  · rintro j k ⟨file, hj⟩ ⟨file', hk⟩
    exact hserial.alone j k file file' hj hk
  · rintro j hne ⟨file, hj⟩ ⟨other, hnext⟩
    exact hserial.next_ne_holding hstep hne hj other hnext

/-- A program that installs its staging file had not installed one before. -/
theorem nodup_step (hserial : Serial t session paths first steps m) {i : ι} {e : Event}
    (hstep : Step .systemErrors m (i, e) m') : (installs (steps ++ [(i, e)])).Nodup := by
  obtain ⟨hconduct, -⟩ := hserial.conduct hstep
  by_cases hturn : e.turn? = some .installed
  · have hfirst : i ∉ installs steps := by
      obtain ⟨file, hholding, -⟩ := hconduct.holding_of_released (.inr hturn)
      rw [hserial.installed, hholding]
      simp
    rw [installs_append, if_pos hturn]
    refine List.nodup_append.2 ⟨hserial.nodup, List.pairwise_singleton _ _, ?_⟩
    rintro j hj k hk rfl
    rw [List.mem_singleton.1 hk] at hj
    exact hfirst hj
  · rw [installs_append, if_neg hturn]
    exact hserial.nodup

/-- No file is created by two programs, as a step creates only a new one. -/
theorem creator_step (hserial : Serial t session paths first steps m) {i : ι} {e : Event}
    (hstep : Step .systemErrors m (i, e) m') {j k : ι} {file : FileId}
    (hj : Created j file (steps ++ [(i, e)])) (hk : Created k file (steps ++ [(i, e)])) : j = k := by
  have hnew : ∀ l, Created l file steps → e.turn? ≠ some (.holding file) := by
    intro l hold hturn
    have hfresh := ((hserial.conduct hstep).1.file_of_create hturn).1
    exact Nat.not_le.2 (hserial.created_lt l file hold) hfresh
  rcases created_append_iff.1 hj with hold | ⟨hji, hturn⟩
  · rcases created_append_iff.1 hk with hold' | ⟨-, hturn⟩
    · exact hserial.creator j k file hold hold'
    · exact absurd hturn (hnew j hold)
  · rcases created_append_iff.1 hk with hold | ⟨hki, -⟩
    · exact absurd hturn (hnew k hold)
    · rw [hji, hki]

theorem created_step (hserial : Serial t session paths first steps m) {i j : ι} {e : Event}
    {file : FileId} (hholding : (own j (steps ++ [(i, e)])).standing = .holding file) :
    Created j file (steps ++ [(i, e)]) := by
  by_cases hne : j = i
  · subst hne
    rw [standing_own_append_self, Standing.next] at hholding
    cases hturn : e.turn? with
    | some turned =>
      rw [hturn, Option.getD_some] at hholding
      exact created_append_iff.2 (.inr ⟨rfl, hturn.trans (congrArg some hholding)⟩)
    | none =>
      rw [hturn, Option.getD_none] at hholding
      exact created_append_iff.2 (.inl (hserial.created j file hholding))
  · rw [own_append_of_ne hne] at hholding
    exact created_append_iff.2 (.inl (hserial.created j file hholding))

/-- A step of any program keeps everything in order. -/
theorem step (hserial : Serial t session paths first steps m) {i : ι} {e : Event}
    (hstep : Step .systemErrors m (i, e) m') :
    Serial t session paths first (steps ++ [(i, e)]) m' := by
  obtain ⟨hconduct, hsafe, hothers, hgrown⟩ := hserial.conduct hstep
  refine ⟨hconduct.sound hserial.sound, fun j => ?_, fun j file hholding => ?_,
    fun j k file file' => hserial.alone_step hstep, ?_, fun j => ?_, hserial.nodup_step hstep,
    fun j file hcreated => ?_, fun j k file => hserial.creator_step hstep,
    fun j file => hserial.created_step⟩
  · by_cases hne : j = i
    · subst hne
      rw [own_append_self]
      exact hsafe
    · rw [own_append_of_ne hne, (hothers j hne).1, (hothers j hne).2]
      exact (hserial.safe j).of_drift rfl fun file hholding =>
        hserial.files_eq_of_holding hstep hne hholding
  · by_cases hne : j = i
    · subst hne
      rw [standing_own_append_self] at hholding
      exact hconduct.staging_of_holding (hserial.staging j file) hholding
    · rw [own_append_of_ne hne] at hholding
      rw [hserial.files_eq_of_holding hstep hne hholding]
      exact hserial.staging j file hholding
  · rw [hconduct.contents?_primary hserial.sound, hserial.contents, updated_append]
  · by_cases hne : j = i
    · subst hne
      rw [standing_own_append_self, hconduct.next_eq_installed_iff, installs_append,
        ← hserial.installed j]
      split <;> simp [*]
    · rw [own_append_of_ne hne, ← hserial.installed j, installs_append]
      split <;> simp [hne]
  · rcases created_append_iff.1 hcreated with hold | ⟨-, hturn⟩
    · exact Nat.lt_of_lt_of_le (hserial.created_lt j file hold) hgrown
    · exact (hconduct.file_of_create hturn).2

theorem of_run (hpaths : ∀ i, (t i).settings.paths = paths) {world : World}
    (hsound : world.files.Sound) (hrun : Run .systemErrors (ofTransactions t session world) steps m) :
    Serial t session paths world.files steps m := by
  induction hrun with
  | start => exact start hpaths hsound
  | @step _ _ _ step _ hstep ih =>
    obtain ⟨i, e⟩ := step
    exact ih.step hstep
  | stop _ i ih => exact ih.stop i

end Serial

/-- Transactions on one store that run interleaved, with calls that fail and programs that stop, are
    serializable: at every point the primary file holds what it held first, changed by the updates that
    were installed so far in the order of their installation. No update is installed twice, those that
    were installed are those of the transactions that committed, and whoever removes or installs a
    staging file is the only one that created the file that lies there. -/
theorem interleaved_serializable (t : ι → Transaction) (session : ι → Session) {root : Text}
    (hroot : ∀ i, (t i).settings.serverRoot = root) {world : World} (hsound : world.files.Sound)
    (hrun : Run .systemErrors (ofTransactions t session world) steps m) :
    m.world.files.contents? (StorePaths.locate root).primary =
        updated t session steps (world.files.contents? (StorePaths.locate root).primary) ∧
      (installs steps).Nodup ∧
      (∀ i outcome progress, m.program i = .done (outcome, progress) →
        (Transaction.Committed outcome ↔ i ∈ installs steps)) ∧
      ∀ i e m', Step .systemErrors m (i, e) m' →
        e.turn? = some .removed ∨ e.turn? = some .installed →
          ∃ file, m.world.files.fileId? (StorePaths.locate root).staging = some file ∧ Created i file steps ∧
            ∀ j, Created j file steps → j = i := by
  have hpaths : ∀ i, (t i).settings.paths = StorePaths.locate root := fun i =>
    congrArg StorePaths.locate (hroot i)
  have hserial := Serial.of_run hpaths hsound hrun
  refine ⟨hserial.contents, hserial.nodup, fun i outcome progress hdone => ?_,
    fun i e m' hstep hturn => ?_⟩
  · have hsafe := hserial.safe i
    rw [hdone] at hsafe
    obtain ⟨result, hreports, hended⟩ := hsafe
    rw [hserial.installed]
    exact hreports.committed_iff.trans hended.installed_iff.symm
  · obtain ⟨file, hholding, hstaging⟩ := (hserial.conduct hstep).1.holding_of_released hturn
    have hcreated := hserial.created i file hholding
    exact ⟨file, hstaging, hcreated, fun j hj => hserial.creator j i file hj hcreated⟩

/-- Two removals on one store: one runs to its end, and then the other on what it left. Both are installed. -/
theorem sampleRemovals_serializable : ∃ steps m,
    Run .systemErrors (ofTransactions (fun _ : Bool => sampleRemoval) (fun _ => sampleScene.session)
      sampleScene.world) steps m ∧ true ∈ installs steps ∧ false ∈ installs steps ∧
      m.world.files.contents? sampleRemoval.settings.paths.primary =
        updated (fun _ => sampleRemoval) (fun _ => sampleScene.session) steps
          (sampleScene.world.files.contents? sampleRemoval.settings.paths.primary) := by
  obtain ⟨tr, hruns, -⟩ := sampleScene.runs_of_run .systemErrors {} sampleRemoval.execute rfl
  have hcommitted : Transaction.Committed (sampleScene.run {} sampleRemoval.execute).1.1 := by
    decide +kernel
  have hcommitted' : Transaction.Committed ((⟨(sampleScene.run {} sampleRemoval.execute).2.world,
      sampleScene.session⟩ : Scene).run {} sampleRemoval.execute).1.1 := by
    decide +kernel
  generalize sampleScene.run {} sampleRemoval.execute = result at hruns hcommitted hcommitted'
  obtain ⟨⟨outcome, progress⟩, s'⟩ := result
  obtain ⟨tr', hruns', -⟩ := (⟨s'.world, sampleScene.session⟩ : Scene).runs_of_run .systemErrors {}
    sampleRemoval.execute rfl
  generalize (⟨s'.world, sampleScene.session⟩ : Scene).run {} sampleRemoval.execute = result' at hruns' hcommitted'
  obtain ⟨⟨outcome', progress'⟩, s''⟩ := result'
  have hstart : Run .systemErrors (ofTransactions (fun _ : Bool => sampleRemoval)
    (fun _ => sampleScene.session) sampleScene.world) [] _ := .start
  obtain ⟨m, hrun, hworld, hprogram, hsession, hlive⟩ := hstart.of_runs (i := true) trivial hruns
  have hwaiting : m.program false = sampleRemoval.execute {} := by
    rw [hprogram]
    rfl
  have hfresh : m.session false = sampleScene.session := by
    rw [hsession]
    rfl
  rw [← hworld, ← hfresh, ← hwaiting] at hruns'
  obtain ⟨m', hrun', -, hprogram', -⟩ := hrun.of_runs (i := false) (by rw [hlive]; trivial) hruns'
  obtain ⟨hcontents, -, hcommits, -⟩ := interleaved_serializable (fun _ => sampleRemoval)
    (fun _ => sampleScene.session) (fun _ => rfl) sound_sampleScene hrun'
  refine ⟨_, m', hrun', (hcommits true outcome progress ?_).1 hcommitted,
    (hcommits false outcome' progress' ?_).1 hcommitted', hcontents⟩
  · rw [hprogram', Function.update_of_ne (by decide), hprogram, Function.update_self]
  · rw [hprogram', Function.update_self]

end Ensemble

end CredentialStore
