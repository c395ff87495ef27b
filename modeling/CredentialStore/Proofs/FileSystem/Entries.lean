import CredentialStore.FileSystem.Calls
import CredentialStore.Proofs.Association
import Mathlib.Data.List.Induction

namespace CredentialStore.FileSystem

open Association

variable {fs : FileSystem} {there other : Location}

/-- An entry leads to a file that exists, and lies in a directory. -/
structure Sound (fs : FileSystem) : Prop where
  file_lt : ∀ there id, fs.entry? there = some (.file id) → id < fs.files.length
  in_directory : ∀ there entry, fs.entry? there = some entry →
    fs.entry? there.dropLast = some .directory

/-- Two file systems have the same directories and differ at most at some locations. -/
structure ChangedOnly (changed : List Location) (fs fs' : FileSystem) : Prop where
  directory : ∀ there, fs'.entry? there = some .directory ↔ fs.entry? there = some .directory
  entry : ∀ there, there ∉ changed → fs'.entry? there = fs.entry? there
  fileAt : ∀ there, there ∉ changed → fs'.fileAt? there = fs.fileAt? there

@[simp] theorem entry?_nil (fs : FileSystem) : fs.entry? [] = some .directory := rfl

theorem entry?_eq_lookup (fs : FileSystem) (hthere : there ≠ []) :
    fs.entry? there = fs.entries.lookup there := by
  cases there with
  | nil => exact absurd rfl hthere
  | cons name rest => rfl

theorem mem_entries_of_eq_some {entry : Entry} (hthere : there ≠ [])
    (hentry : fs.entry? there = some entry) : (there, entry) ∈ fs.entries := by
  rw [entry?_eq_lookup fs hthere] at hentry
  obtain ⟨before, after, hentries, -⟩ := List.lookup_eq_some_iff.1 hentry
  rw [hentries]
  exact List.mem_append_right before List.mem_cons_self

/-- It is enough to look at the entries themselves. -/
theorem Sound.of_entries (hfile : ∀ there id, (there, .file id) ∈ fs.entries → id < fs.files.length)
    (hparent : ∀ e ∈ fs.entries, fs.entry? e.1.dropLast = some .directory) : fs.Sound where
  file_lt there id hentry := by
    by_cases hnil : there = []
    · subst hnil
      cases hentry
    · exact hfile there id (mem_entries_of_eq_some hnil hentry)
  in_directory there entry hentry := by
    by_cases hnil : there = []
    · subst hnil
      rfl
    · exact hparent _ (mem_entries_of_eq_some hnil hentry)

theorem lookup_filter_ne (entries : List (Location × Entry)) (there other : Location) :
    (entries.filter fun e => e.1 ≠ there).lookup other =
      if other = there then none else entries.lookup other := by
  induction entries with
  | nil => simp
  | cons e rest ih =>
    obtain ⟨at_, entry⟩ := e
    by_cases hat : at_ = there
    · subst hat
      rw [List.filter_cons_of_neg (by simp), ih, lookup_cons_eq_ite]
      by_cases hother : other = at_ <;> simp [hother]
    · rw [List.filter_cons_of_pos (by simp [hat]), lookup_cons_eq_ite, lookup_cons_eq_ite, ih]
      by_cases hother : other = at_
      · simp [hother, hat]
      · simp [hother]

theorem entry?_unbind (fs : FileSystem) (hthere : there ≠ []) (other : Location) :
    entry? (fs.unbind there) other = if other = there then none else fs.entry? other := by
  by_cases hother : other = []
  · subst hother
    simp [Ne.symm hthere]
  · rw [entry?_eq_lookup (fs.unbind there) hother, entry?_eq_lookup fs hother]
    exact lookup_filter_ne fs.entries there other

theorem entry?_bind (fs : FileSystem) (hthere : there ≠ []) (entry : Entry) (other : Location) :
    entry? (fs.bind there entry) other = if other = there then some entry else fs.entry? other := by
  by_cases hother : other = []
  · subst hother
    simp [Ne.symm hthere]
  · have hunbind := entry?_unbind fs hthere other
    rw [entry?_eq_lookup _ hother] at hunbind ⊢
    rw [bind, lookup_cons_eq_ite, hunbind]
    by_cases heq : other = there <;> simp [heq]

@[simp] theorem entry?_change (fs : FileSystem) (id : FileId) (f : File → File) (other : Location) :
    entry? (fs.change id f) other = fs.entry? other := rfl

theorem file?_change (fs : FileSystem) (id : FileId) (f : File → File) (other : FileId) :
    (fs.change id f).file? other = if id = other then (fs.file? other).map f else fs.file? other := by
  rw [file?, change, List.getElem?_modify]
  by_cases h : id = other <;> simp [h, file?]

@[simp] theorem length_change (fs : FileSystem) (id : FileId) (f : File → File) :
    (fs.change id f).files.length = fs.files.length := by
  simp [change]

@[simp] theorem file?_bind (fs : FileSystem) (there : Location) (entry : Entry) (id : FileId) :
    (fs.bind there entry).file? id = fs.file? id := rfl

@[simp] theorem file?_unbind (fs : FileSystem) (there : Location) (id : FileId) :
    (fs.unbind there).file? id = fs.file? id := rfl

@[simp] theorem file?_move (fs : FileSystem) (source target : Location) (id : FileId) :
    (fs.move source target).file? id = fs.file? id := rfl

theorem file?_bindNew_of_lt (fs : FileSystem) (there : Location) (file : File) {id : FileId}
    (hid : id < fs.files.length) : (fs.bindNew there file).file? id = fs.file? id := by
  simp [file?, bindNew, bind, unbind, List.getElem?_append_left hid]

theorem file?_bindNew_length (fs : FileSystem) (there : Location) (file : File) :
    (fs.bindNew there file).file? fs.files.length = some file := by
  simp [file?, bindNew, bind, unbind]

/-- A created file has the permissions asked for, less those of the mask. -/
theorem file?_of_create {fs fs' : FileSystem} {path : Text} {mode : Nat} {id : FileId}
    (hcreate : fs.create path mode = .ok (id, fs')) :
    fs'.file? id = some ⟨[], mode &&& (0o7777 ^^^ (fs.umask &&& 0o7777))⟩ := by
  simp only [create, Bind.bind, Except.bind] at hcreate
  split at hcreate
  · cases hcreate
  · split at hcreate
    · cases hcreate
    · cases hcreate
      exact file?_bindNew_length fs _ _

theorem entry?_bindNew (fs : FileSystem) (hthere : there ≠ []) (file : File) (other : Location) :
    entry? (fs.bindNew there file) other =
      if other = there then some (.file fs.files.length) else fs.entry? other :=
  entry?_bind _ hthere _ _

@[simp] theorem length_bindNew (fs : FileSystem) (there : Location) (file : File) :
    (fs.bindNew there file).files.length = fs.files.length + 1 := by
  simp [bindNew, bind, unbind]

theorem fileAt?_of_file {id : FileId} (hentry : fs.entry? there = some (.file id)) :
    fs.fileAt? there = fs.file? id := by
  simp [fileAt?, hentry]

theorem fileAt?_congr {fs' : FileSystem} (hentry : fs'.entry? there = fs.entry? there)
    (hfile : ∀ id, fs.entry? there = some (.file id) → fs'.file? id = fs.file? id) :
    fs'.fileAt? there = fs.fileAt? there := by
  cases hthere : fs.entry? there with
  | none => simp [fileAt?, hentry, hthere]
  | some entry =>
    cases entry with
    | directory => simp [fileAt?, hentry, hthere]
    | file id => simp [fileAt?, hentry, hthere, hfile id hthere]

namespace Sound

/-- Whatever lies inside a location makes it a directory. -/
theorem directory_of_inside (hsound : fs.Sound) {inside : List Bytes} (hinside : inside ≠ [])
    {entry : Entry} (hentry : fs.entry? (there ++ inside) = some entry) :
    fs.entry? there = some .directory := by
  induction inside using List.reverseRecOn generalizing entry with
  | nil => exact absurd rfl hinside
  | append_singleton way name ih =>
    have hway := hsound.in_directory _ _ hentry
    rw [← List.append_assoc, List.dropLast_concat] at hway
    by_cases hnil : way = []
    · rwa [hnil, List.append_nil] at hway
    · exact ih hnil hway

/-- Nothing lies inside what is no directory. -/
theorem eq_of_isPrefix (hsound : fs.Sound) (hthere : fs.entry? there ≠ some .directory)
    {e : Location × Entry} (he : e ∈ fs.entries) (hbegins : there <+: e.1) : e.1 = there := by
  obtain ⟨inside, hinside⟩ := hbegins
  by_cases hnil : inside = []
  · rw [← hinside, hnil, List.append_nil]
  · have hne : e.1 ≠ [] := by simp [← hinside, hnil]
    have hsome : (fs.entries.lookup e.1).isSome := by
      rw [List.lookup_isSome_iff]
      exact ⟨e, he, by simp⟩
    obtain ⟨entry, hentry⟩ := Option.isSome_iff_exists.1 hsome
    rw [← entry?_eq_lookup fs hne, ← hinside] at hentry
    exact absurd (hsound.directory_of_inside hnil hentry) hthere

end Sound

theorem lookup_map_move {entries : List (Location × Entry)} {source target : Location}
    (hne : source ≠ target) (hinside : ∀ e ∈ entries, source <+: e.1 → e.1 = source)
    (other : Location) :
    ((entries.filter fun e => e.1 ≠ target).map fun e =>
        if source.isPrefixOf e.1 then (target ++ e.1.drop source.length, e.2) else e).lookup other =
      if other = target then entries.lookup source
      else if other = source then none else entries.lookup other := by
  induction entries with
  | nil => simp
  | cons e rest ih =>
    obtain ⟨at_, entry⟩ := e
    have hrest := ih fun e he => hinside e (List.mem_cons_of_mem _ he)
    by_cases htarget : at_ = target
    · subst htarget
      rw [List.filter_cons_of_neg (by simp), hrest, lookup_cons_eq_ite, lookup_cons_eq_ite, if_neg hne]
      by_cases hother : other = at_ <;> simp [hother]
    · rw [List.filter_cons_of_pos (by simp [htarget]), List.map_cons]
      by_cases hsource : at_ = source
      · subst hsource
        have hmoved : (if at_.isPrefixOf at_ then (target ++ at_.drop at_.length, entry)
            else (at_, entry)) = (target, entry) := by simp
        rw [hmoved, lookup_cons_eq_ite, hrest, lookup_cons_eq_ite, lookup_cons_eq_ite, if_pos rfl]
        by_cases hother : other = target
        · simp [hother]
        · by_cases heq : other = at_ <;> simp [hother, heq, hne]
      · have hbegins : source.isPrefixOf at_ = false := by
          rw [Bool.eq_false_iff]
          intro h
          exact hsource (hinside (at_, entry) List.mem_cons_self (List.isPrefixOf_iff_prefix.1 h))
        simp only [hbegins, Bool.false_eq_true, if_false]
        rw [lookup_cons_eq_ite, hrest, lookup_cons_eq_ite, lookup_cons_eq_ite,
          if_neg (Ne.symm hsource)]
        by_cases hother : other = at_
        · simp [hother, htarget, hsource]
        · simp [hother]

/-- What is moved lies at the target and no longer at the source. -/
theorem entry?_move (hsound : fs.Sound) {source target : Location} (hsource : source ≠ [])
    (htarget : target ≠ []) (hne : source ≠ target) (hfile : fs.entry? source ≠ some .directory)
    (other : Location) :
    entry? (fs.move source target) other =
      if other = target then fs.entry? source
      else if other = source then none else fs.entry? other := by
  by_cases hother : other = []
  · subst hother
    simp [Ne.symm hsource, Ne.symm htarget]
  · rw [entry?_eq_lookup _ hother, entry?_eq_lookup _ hother, entry?_eq_lookup _ hsource]
    exact lookup_map_move hne (fun e he => hsound.eq_of_isPrefix hfile he) other

namespace Sound

theorem change (hsound : fs.Sound) (id : FileId) (f : File → File) : (fs.change id f).Sound where
  file_lt there other hentry := by
    rw [length_change]
    exact hsound.file_lt there other hentry
  in_directory there entry hentry := hsound.in_directory there entry hentry

theorem bind (hsound : fs.Sound) (hthere : there ≠ []) (hparent : fs.entry? there.dropLast = some .directory)
    (hfree : fs.entry? there ≠ some .directory) {id : FileId} (hid : id < fs.files.length) :
    (fs.bind there (.file id)).Sound where
  file_lt other file hentry := by
    rw [entry?_bind fs hthere] at hentry
    by_cases hother : other = there
    · rw [if_pos hother] at hentry
      cases hentry
      exact hid
    · rw [if_neg hother] at hentry
      exact hsound.file_lt other file hentry
  in_directory other entry hentry := by
    have hparent' : fs.entry? other.dropLast = some .directory := by
      rw [entry?_bind fs hthere] at hentry
      by_cases hother : other = there
      · rw [hother, hparent]
      · rw [if_neg hother] at hentry
        exact hsound.in_directory other entry hentry
    have hne : other.dropLast ≠ there := by
      intro heq
      exact hfree (heq ▸ hparent')
    rw [entry?_bind fs hthere, if_neg hne, hparent']

theorem bindNew (hsound : fs.Sound) (hthere : there ≠ [])
    (hparent : fs.entry? there.dropLast = some .directory)
    (hfree : fs.entry? there ≠ some .directory) (file : File) : (fs.bindNew there file).Sound := by
  have hadded : ({ fs with files := fs.files ++ [file] } : FileSystem).Sound :=
    ⟨fun other id hentry => by
      have hlt := hsound.file_lt other id hentry
      rw [List.length_append]
      exact Nat.lt_add_right _ hlt, hsound.in_directory⟩
  exact hadded.bind hthere hparent hfree (by simp)

theorem unbind (hsound : fs.Sound) (hthere : there ≠ []) (hfile : fs.entry? there ≠ some .directory) :
    (fs.unbind there).Sound where
  file_lt other id hentry := by
    rw [entry?_unbind fs hthere] at hentry
    by_cases hother : other = there
    · simp [hother] at hentry
    · rw [if_neg hother] at hentry
      exact hsound.file_lt other id hentry
  in_directory other entry hentry := by
    rw [entry?_unbind fs hthere] at hentry
    by_cases hother : other = there
    · simp [hother] at hentry
    · rw [if_neg hother] at hentry
      have hparent := hsound.in_directory other entry hentry
      have hne : other.dropLast ≠ there := by
        intro heq
        exact hfile (heq ▸ hparent)
      rw [entry?_unbind fs hthere, if_neg hne, hparent]

theorem move (hsound : fs.Sound) {source target : Location} (hsource : source ≠ [])
    (htarget : target ≠ []) (hne : source ≠ target) {id : FileId}
    (hfile : fs.entry? source = some (.file id)) (hover : fs.entry? target ≠ some .directory)
    (hparent : fs.entry? target.dropLast = some .directory) : (fs.move source target).Sound := by
  have hnot : fs.entry? source ≠ some .directory := by simp [hfile]
  have hentries := entry?_move hsound hsource htarget hne hnot
  refine ⟨fun other file hentry => ?_, fun other entry hentry => ?_⟩
  · rw [hentries] at hentry
    by_cases hother : other = target
    · rw [if_pos hother, hfile] at hentry
      cases hentry
      exact hsound.file_lt source id hfile
    · rw [if_neg hother] at hentry
      by_cases heq : other = source
      · simp [heq] at hentry
      · rw [if_neg heq] at hentry
        exact hsound.file_lt other file hentry
  · have hparent' : fs.entry? other.dropLast = some .directory := by
      rw [hentries] at hentry
      by_cases hother : other = target
      · rw [hother, hparent]
      · rw [if_neg hother] at hentry
        by_cases heq : other = source
        · simp [heq] at hentry
        · rw [if_neg heq] at hentry
          exact hsound.in_directory other entry hentry
    have hneTarget : other.dropLast ≠ target := by
      intro heq
      exact hover (heq ▸ hparent')
    have hneSource : other.dropLast ≠ source := by
      intro heq
      exact hnot (heq ▸ hparent')
    rw [hentries, if_neg hneTarget, if_neg hneSource, hparent']

end Sound

namespace ChangedOnly

variable {changed : List Location} {fs fs' fs'' : FileSystem}

theorem refl (fs : FileSystem) : ChangedOnly changed fs fs :=
  ⟨fun _ => Iff.rfl, fun _ _ => rfl, fun _ _ => rfl⟩

theorem trans (h : ChangedOnly changed fs fs') (h' : ChangedOnly changed fs' fs'') :
    ChangedOnly changed fs fs'' where
  directory there := (h'.directory there).trans (h.directory there)
  entry there hthere := (h'.entry there hthere).trans (h.entry there hthere)
  fileAt there hthere := (h'.fileAt there hthere).trans (h.fileAt there hthere)

theorem symm (h : ChangedOnly changed fs fs') : ChangedOnly changed fs' fs where
  directory there := (h.directory there).symm
  entry there hthere := (h.entry there hthere).symm
  fileAt there hthere := (h.fileAt there hthere).symm

theorem mono (h : ChangedOnly changed fs fs') {more : List Location} (hmore : changed ⊆ more) :
    ChangedOnly more fs fs' where
  directory := h.directory
  entry there hthere := h.entry there fun hmem => hthere (hmore hmem)
  fileAt there hthere := h.fileAt there fun hmem => hthere (hmore hmem)

end ChangedOnly

end CredentialStore.FileSystem
