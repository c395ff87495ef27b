import CredentialStore.Proofs.FileSystem.Held

namespace CredentialStore.FileSystem

/-- Whether two file systems differ at most in the data of their files. -/
structure SameButData (fs fs' : FileSystem) : Prop where
  entries : fs'.entries = fs.entries
  umask : fs'.umask = fs.umask
  length : fs'.files.length = fs.files.length
  mode : ∀ id, (fs'.file? id).map File.mode = (fs.file? id).map File.mode

namespace SameButData

variable {fs fs' fs'' : FileSystem}

theorem refl (fs : FileSystem) : fs.SameButData fs := ⟨rfl, rfl, rfl, fun _ => rfl⟩

theorem symm (h : fs.SameButData fs') : fs'.SameButData fs :=
  ⟨h.entries.symm, h.umask.symm, h.length.symm, fun id => (h.mode id).symm⟩

theorem trans (h : fs.SameButData fs') (h' : fs'.SameButData fs'') : fs.SameButData fs'' where
  entries := h'.entries.trans h.entries
  umask := h'.umask.trans h.umask
  length := h'.length.trans h.length
  mode id := (h'.mode id).trans (h.mode id)

theorem append (fs : FileSystem) (id : FileId) (octets : Bytes) : fs.SameButData (fs.append id octets) where
  entries := rfl
  umask := rfl
  length := length_change fs id _
  mode other := by
    rw [FileSystem.append, file?_change]
    split
    · rw [Option.map_map]
      rfl
    · rfl

theorem entry?_eq (h : fs.SameButData fs') (there : Location) : fs'.entry? there = fs.entry? there := by
  unfold entry?
  rw [h.entries]

theorem sound (h : fs.SameButData fs') (hsound : fs.Sound) : fs'.Sound where
  file_lt there id hentry := by
    rw [h.entry?_eq] at hentry
    rw [h.length]
    exact hsound.file_lt there id hentry
  in_directory there entry hentry := by
    rw [h.entry?_eq] at hentry ⊢
    exact hsound.in_directory there entry hentry

theorem leadTo (h : fs.SameButData fs') {paths : StorePaths} {directory : Location}
    (hlead : paths.LeadTo fs directory) : paths.LeadTo fs' directory :=
  hlead.of_directory_iff fun there => by rw [h.entry?_eq]

theorem walk_eq (h : fs.SameButData fs') (here : Location) (names : List Bytes) :
    fs'.walk here names = fs.walk here names := by
  induction names generalizing here with
  | nil => rfl
  | cons name rest ih => simp only [walk, h.entry?_eq, ih]

theorem locate_eq (h : fs.SameButData fs') (path : Text) : fs'.locate path = fs.locate path := by
  simp only [locate, h.walk_eq]

theorem entryAt?_eq (h : fs.SameButData fs') (path : Text) : fs'.entryAt? path = fs.entryAt? path := by
  simp only [entryAt?, h.locate_eq, h.entry?_eq]

theorem fileId?_eq (h : fs.SameButData fs') (path : Text) : fs'.fileId? path = fs.fileId? path := by
  simp only [fileId?, h.entryAt?_eq]

theorem openFile_eq (h : fs.SameButData fs') (path : Text) : fs'.openFile path = fs.openFile path := by
  simp only [openFile, h.locate_eq, h.entry?_eq]

theorem copyTarget_eq (h : fs.SameButData fs') (source target : Text) :
    fs'.copyTarget source target = fs.copyTarget source target := by
  unfold copyTarget isDirectory
  rw [h.entryAt?_eq]

theorem isWritable_eq (h : fs.SameButData fs') (id : FileId) :
    (fs'.file? id).any File.isWritable = (fs.file? id).any File.isWritable := by
  have hmode := congrArg (Option.any fun mode => mode.testBit 7) (h.mode id)
  rw [Option.any_map, Option.any_map] at hmode
  exact hmode

end SameButData

/-- Whether two file systems differ at most in the data of some files. -/
structure SameBut (changed : FileId → Prop) (fs fs' : FileSystem) : Prop extends SameButData fs fs' where
  file : ∀ id, ¬changed id → fs'.file? id = fs.file? id

namespace SameBut

variable {changed : FileId → Prop} {fs fs' fs'' : FileSystem}

theorem refl (changed : FileId → Prop) (fs : FileSystem) : fs.SameBut changed fs :=
  ⟨.refl fs, fun _ _ => rfl⟩

theorem symm (h : fs.SameBut changed fs') : fs'.SameBut changed fs :=
  ⟨h.toSameButData.symm, fun id hid => (h.file id hid).symm⟩

theorem trans (h : fs.SameBut changed fs') (h' : fs'.SameBut changed fs'') : fs.SameBut changed fs'' :=
  ⟨h.toSameButData.trans h'.toSameButData, fun id hid => (h'.file id hid).trans (h.file id hid)⟩

/-- Adding octets to one of the files makes no other difference. -/
theorem append {id : FileId} (hid : changed id) (fs : FileSystem) (octets : Bytes) :
    fs.SameBut changed (fs.append id octets) where
  toSameButData := .append fs id octets
  file other hother := by
    rw [FileSystem.append, file?_change, if_neg]
    rintro rfl
    exact hother hid

theorem dataOf_eq (h : fs.SameBut changed fs') {id : FileId} (hid : ¬changed id) :
    fs'.dataOf id = fs.dataOf id := by
  rw [dataOf, dataOf, h.file id hid]

theorem lineAt_eq (h : fs.SameBut changed fs') {id : FileId} (hid : ¬changed id) (start stop : Nat) :
    fs'.lineAt id start stop = fs.lineAt id start stop := by
  rw [lineAt, lineAt, h.dataOf_eq hid]

theorem contents?_eq (h : fs.SameBut changed fs') {path : Text}
    (hpath : ∀ id, fs.fileId? path = some id → ¬changed id) : fs'.contents? path = fs.contents? path := by
  rw [contents?, contents?, h.fileId?_eq]
  cases hfile : fs.fileId? path with
  | none => rfl
  | some id => exact congrArg some (h.dataOf_eq (hpath id hfile))

section Entries

variable (h : fs.SameBut changed fs')
include h

theorem bind (there : Location) (entry : Entry) : (fs.bind there entry).SameBut changed (fs'.bind there entry) where
  entries := by
    unfold FileSystem.bind FileSystem.unbind
    rw [h.entries]
  umask := h.umask
  length := h.length
  mode := h.mode
  file := h.file

theorem unbind (there : Location) : (fs.unbind there).SameBut changed (fs'.unbind there) where
  entries := by
    unfold FileSystem.unbind
    rw [h.entries]
  umask := h.umask
  length := h.length
  mode := h.mode
  file := h.file

theorem move (source target : Location) : (fs.move source target).SameBut changed (fs'.move source target) where
  entries := by
    unfold FileSystem.move
    rw [h.entries]
  umask := h.umask
  length := h.length
  mode := h.mode
  file := h.file

/-- A new file has the same number and is the same in both. -/
theorem bindNew (there : Location) (file : File) :
    (fs.bindNew there file).SameBut changed (fs'.bindNew there file) := by
  have hfile : ∀ fs : FileSystem, ∀ id, (fs.bindNew there file).file? id =
      if id < fs.files.length then fs.file? id else [file][id - fs.files.length]? := fun fs id =>
    List.getElem?_append
  have hadded : ({ fs with files := fs.files ++ [file] } : FileSystem).SameBut changed
      { fs' with files := fs'.files ++ [file] } := by
    refine ⟨⟨h.entries, h.umask, ?_, fun id => ?_⟩, fun id hid => ?_⟩
    · rw [List.length_append, List.length_append, h.length]
    · refine (congrArg _ (hfile fs' id)).trans (Eq.trans ?_ (congrArg _ (hfile fs id)).symm)
      rw [h.length]
      split
      · exact h.mode id
      · rfl
    · refine (hfile fs' id).trans (Eq.trans ?_ (hfile fs id).symm)
      rw [h.length, h.file id hid]
  unfold FileSystem.bindNew
  rw [h.length]
  exact hadded.bind there _

/-- A change of a file that treats files of the same permissions alike. -/
theorem change (id : FileId) {f : File → File} (hf : ∀ a b : File, a.mode = b.mode → (f a).mode = (f b).mode) :
    (fs.change id f).SameBut changed (fs'.change id f) where
  entries := h.entries
  umask := h.umask
  length := by rw [length_change, length_change, h.length]
  mode other := by
    have hmode := h.mode other
    rw [file?_change, file?_change]
    split
    · rcases hfile : fs.file? other with _ | a
      · rw [hfile] at hmode
        rw [Option.map_eq_none_iff.1 hmode]
      · rw [hfile, Option.map_some, Option.map_eq_some_iff] at hmode
        obtain ⟨b, hb, hmode⟩ := hmode
        rw [hb]
        exact congrArg some (hf b a hmode)
    · exact hmode
  file other hother := by rw [file?_change, file?_change, h.file other hother]

end Entries

end SameBut

/-- Whether two results of a call on the files are the same but for the data of some files. -/
inductive SameResult (changed : FileId → Prop) : Except Failure FileSystem → Except Failure FileSystem → Prop
  | ok {fs fs' : FileSystem} (hsame : fs.SameBut changed fs') : SameResult changed (.ok fs) (.ok fs')
  | error (failure : Failure) : SameResult changed (.error failure) (.error failure)

theorem entryAt?_of_fileId? {fs : FileSystem} {path : Text} {id : FileId} (hfile : fs.fileId? path = some id) :
    fs.entryAt? path = some (.file id) := by
  unfold fileId? at hfile
  rcases hentry : fs.entryAt? path with _ | ⟨other | _⟩ <;> rw [hentry] at hfile <;> cases hfile
  rfl

/-- A file that is opened is the one that its path leads to. -/
theorem fileId?_of_openFile {fs : FileSystem} {path : Text} {id : FileId} (hopen : fs.openFile path = .ok id) :
    fs.fileId? path = some id := by
  unfold openFile at hopen
  unfold fileId? entryAt?
  cases hlocate : fs.locate path with
  | error failure =>
    rw [hlocate] at hopen
    cases hopen
  | ok there =>
    simp only [hlocate, Bind.bind, Except.bind] at hopen
    rcases hentry : fs.entry? there with _ | ⟨other | _⟩ <;> rw [hentry] at hopen <;> cases hopen
    simp only [hentry]

namespace SameResult

variable {changed : FileId → Prop} {α : Type} {result : Except Failure α}
  {next next' : α → Except Failure FileSystem}

theorem bind (hnext : ∀ value, result = .ok value → SameResult changed (next value) (next' value)) :
    SameResult changed (result >>= next) (result >>= next') := by
  cases result with
  | ok value => exact hnext value rfl
  | error failure => exact .error failure

theorem ite {p : Prop} [Decidable p] {first first' second second' : Except Failure FileSystem}
    (hfirst : SameResult changed first first') (hsecond : SameResult changed second second') :
    SameResult changed (if p then first else second) (if p then first' else second') := by
  split
  · exact hfirst
  · exact hsecond

end SameResult

/-- Copies a file to a path that does not lead to it. -/
def copyOnto (fs : FileSystem) (source target : Text) : Except Failure FileSystem := do
  let id ← fs.openFile source
  let new ← fs.locate target
  let contents := (fs.file? id).getD ⟨[], 0⟩
  match fs.entry? new with
  | none => pure (fs.bindNew new contents)
  | some .directory => throw (.numbered .isDirectory)
  | some (.file other) =>
    if (fs.file? other).any File.isWritable then pure (fs.change other fun _ => contents)
    else throw (.numbered .accessDenied)

/-- Whether two paths lead to one file. -/
def IsOneFile (fs : FileSystem) (source target : Text) : Prop :=
  ∃ id, fs.fileId? source = some id ∧ fs.fileId? target = some id

theorem copy_eq (fs : FileSystem) (source target : Text) :
    (fs.IsOneFile source (fs.copyTarget source target) ∧ fs.copy source target =
      .error (.system (.unnumbered (sameFile source (fs.copyTarget source target))))) ∨
    ¬fs.IsOneFile source (fs.copyTarget source target) ∧
      fs.copy source target = fs.copyOnto source (fs.copyTarget source target) := by
  unfold copy copyOnto IsOneFile
  generalize fs.copyTarget source target = onto
  dsimp only
  rcases fs.fileId? source with _ | a
  · exact .inr ⟨by simp, rfl⟩
  · rcases fs.fileId? onto with _ | b
    · exact .inr ⟨by simp, rfl⟩
    · by_cases hsame : a = b
      · subst hsame
        exact .inl ⟨⟨a, rfl, rfl⟩, by simp only [if_true]; rfl⟩
      · refine .inr ⟨by simp [Ne.symm hsame], ?_⟩
        dsimp only
        split
        · contradiction
        · rfl

namespace SameBut

variable {changed : FileId → Prop} {fs fs' : FileSystem} (h : fs.SameBut changed fs')
include h

theorem unlink (path : Text) : SameResult changed (fs.unlink path) (fs'.unlink path) := by
  unfold FileSystem.unlink
  rw [h.locate_eq]
  refine .bind fun there _ => ?_
  rw [h.entry?_eq]
  rcases fs.entry? there with _ | ⟨id | _⟩
  · exact .error _
  · exact .ok (h.unbind there)
  · exact .error _

theorem link (source target : Text) : SameResult changed (fs.link source target) (fs'.link source target) := by
  unfold FileSystem.link
  rw [h.locate_eq, h.locate_eq]
  refine .bind fun old _ => ?_
  rw [h.entry?_eq]
  rcases fs.entry? old with _ | entry
  · exact .error _
  refine .bind fun new _ => ?_
  rw [h.entry?_eq]
  rcases fs.entry? new with _ | _
  · rcases entry with id | _
    · exact .ok (h.bind new (.file id))
    · exact .error _
  · exact .error _

theorem rename (source target : Text) :
    SameResult changed (fs.rename source target) (fs'.rename source target) := by
  unfold FileSystem.rename
  rw [h.locate_eq, h.locate_eq]
  refine .bind fun old _ => .bind fun new _ => ?_
  have hinside : fs'.hasInside new = fs.hasInside new := by
    unfold hasInside
    rw [h.entries]
  rw [h.entry?_eq, h.entry?_eq, hinside]
  have hmoved := h.move old new
  rcases fs.entry? old with _ | ⟨a | _⟩
  · exact .error _
  · rcases fs.entry? new with _ | ⟨b | _⟩
    · exact .ok hmoved
    · by_cases hsame : a = b
      · simp only [if_pos hsame]
        exact .ok h
      · simp only [if_neg hsame]
        exact .ok hmoved
    · exact .error _
  · rcases fs.entry? new with _ | ⟨b | _⟩
    · exact .ok hmoved
    · exact .error _
    · exact .ite (.ok h) (.ite (.error _) (.ok hmoved))

/-- A file that is copied has to be one of those that are the same. -/
theorem copy {source : Text} (hsource : ∀ id, fs.fileId? source = some id → ¬changed id) (target : Text) :
    SameResult changed (fs.copy source target) (fs'.copy source target) := by
  have hone : fs'.IsOneFile source (fs'.copyTarget source target) ↔
      fs.IsOneFile source (fs.copyTarget source target) := by
    simp only [IsOneFile, h.copyTarget_eq, h.fileId?_eq]
  obtain ⟨hsame, hcopy⟩ | ⟨hdiffer, hcopy⟩ := fs.copy_eq source target
  · obtain ⟨-, hcopy'⟩ | ⟨hdiffer, -⟩ := fs'.copy_eq source target
    · rw [hcopy, hcopy', h.copyTarget_eq]
      exact .error _
    · exact absurd (hone.2 hsame) hdiffer
  obtain ⟨hsame, -⟩ | ⟨-, hcopy'⟩ := fs'.copy_eq source target
  · exact absurd (hone.1 hsame) hdiffer
  rw [hcopy, hcopy', copyOnto, copyOnto, h.copyTarget_eq, h.openFile_eq, h.locate_eq]
  refine .bind fun id hid => .bind fun new _ => ?_
  rw [h.file id (hsource id (fileId?_of_openFile hid)), h.entry?_eq]
  rcases fs.entry? new with _ | ⟨other | _⟩
  · exact .ok (h.bindNew new _)
  · dsimp only
    rw [h.isWritable_eq]
    exact .ite (.ok (h.change other fun _ _ _ => rfl)) (.error _)
  · exact .error _

/-- What is created has the same number in both. -/
theorem create (path : Text) (mode : Nat) :
    (∃ file now now', fs.create path mode = .ok (file, now) ∧ fs'.create path mode = .ok (file, now') ∧
      now.SameBut changed now') ∨
    ∃ failure, fs.create path mode = .error failure ∧ fs'.create path mode = .error failure := by
  unfold FileSystem.create
  rw [h.locate_eq]
  cases fs.locate path with
  | error failure => exact .inr ⟨failure, rfl, rfl⟩
  | ok there =>
    simp only [Bind.bind, Except.bind, h.entry?_eq, h.umask, h.length]
    cases fs.entry? there with
    | some _ => exact .inr ⟨_, rfl, rfl⟩
    | none => exact .inl ⟨_, _, _, rfl, rfl, h.bindNew there _⟩

end SameBut

end CredentialStore.FileSystem
