import CredentialStore.Proofs.FileSystem.Held

namespace CredentialStore.FileSystem

variable {fs fs' : FileSystem} {source target path : Text} {here there : Location}

theorem Sound.dropLast_of_walk (hsound : fs.Sound) {names : List Bytes}
    (hhere : fs.entry? here.dropLast = some .directory) (hwalk : fs.walk here names = .ok there) :
    fs.entry? there.dropLast = some .directory := by
  induction names generalizing here with
  | nil =>
    cases hwalk
    exact hhere
  | cons name rest ih =>
    obtain ⟨hdirectory, next, hturn, hrest⟩ := walk_cons_ok_iff.1 hwalk
    refine ih ?_ hrest
    unfold turn at hturn
    split at hturn
    · cases hturn
      exact hhere
    · split at hturn
      · cases hturn
        exact hsound.in_directory _ _ hhere
      · split at hturn
        · cases hturn
        · cases hturn
          rwa [List.dropLast_concat]

/-- Where a path leads, there is a directory for what it leads to. -/
theorem Sound.dropLast_of_locate (hsound : fs.Sound) (hlocate : fs.locate path = .ok there) :
    fs.entry? there.dropLast = some .directory := by
  obtain ⟨octets, -, -, -, -, hwalk⟩ := locate_eq_ok_iff.1 hlocate
  have hroot : fs.entry? ([] : Location).dropLast = some .directory := rfl
  exact hsound.dropLast_of_walk hroot hwalk

/-- Files and names may have come, and nothing has gone. -/
structure Added (fs fs' : FileSystem) : Prop where
  sound : fs'.Sound
  directory : ∀ there, fs'.entry? there = some .directory ↔ fs.entry? there = some .directory
  entry : ∀ there entry, fs.entry? there = some entry → fs'.entry? there = some entry

theorem ne_nil_of_free (hfree : fs.entry? there = none) : there ≠ [] := by
  rintro rfl
  cases hfree

theorem added_change (hsound : fs.Sound) (id : FileId) (f : File → File) : Added fs (fs.change id f) :=
  ⟨hsound.change id f, fun _ => Iff.rfl, fun _ _ hentry => hentry⟩

theorem ChangedOnly.added (hchanged : ChangedOnly [there] fs fs') (hsound : fs'.Sound)
    (hfree : fs.entry? there = none) : Added fs fs' := by
  refine ⟨hsound, hchanged.directory, fun other entry hentry => ?_⟩
  have hother : other ∉ [there] := by
    rw [List.mem_singleton]
    rintro rfl
    cases hfree.symm.trans hentry
  rw [hchanged.entry other hother, hentry]

theorem added_of_link (hsound : fs.Sound) (hlink : fs.link source target = .ok fs') : Added fs fs' := by
  simp only [link, Bind.bind, Except.bind] at hlink
  split at hlink
  · cases hlink
  rename_i old hold
  split at hlink
  · cases hlink
  rename_i entry hentry
  split at hlink
  · cases hlink
  rename_i new hnew
  split at hlink
  · cases hlink
  · cases hlink
  rename_i id hfree
  cases hlink
  have hother : fs.entry? new ≠ some .directory := by simp [hfree]
  refine (changedOnly_bind (ne_nil_of_free hfree) hother).added ?_ hfree
  exact hsound.bind (ne_nil_of_free hfree) (hsound.dropLast_of_locate hnew) hother
    (hsound.file_lt _ _ hentry)

/-- A copy is a new file where nothing lies, or it replaces what a file holds. -/
theorem of_copy (hcopy : fs.copy source target = .ok fs') : ∃ contents : File,
    (∃ new, fs.locate (fs.copyTarget source target) = .ok new ∧ fs.entry? new = none ∧
      fs' = fs.bindNew new contents) ∨
    ∃ id, fs' = fs.change id fun _ => contents := by
  simp only [copy, Bind.bind, Except.bind] at hcopy
  repeat' split at hcopy
  all_goals cases hcopy
  all_goals first
    | exact ⟨_, .inl ⟨_, ‹_›, ‹_›, rfl⟩⟩
    | exact ⟨_, .inr ⟨_, rfl⟩⟩

theorem added_of_copy (hsound : fs.Sound) (hcopy : fs.copy source target = .ok fs') : Added fs fs' := by
  obtain ⟨contents, ⟨new, hnew, hfree, rfl⟩ | ⟨id, rfl⟩⟩ := of_copy hcopy
  · have hother : fs.entry? new ≠ some .directory := by simp [hfree]
    refine (changedOnly_bindNew hsound (ne_nil_of_free hfree) hother contents).added ?_ hfree
    exact hsound.bindNew (ne_nil_of_free hfree) (hsound.dropLast_of_locate hnew) hother contents
  · exact added_change hsound id _

end CredentialStore.FileSystem
