import CredentialStore.Proofs.FileSystem.Siblings
import CredentialStore.World.Basic

namespace CredentialStore

/-- Whether a text names a path: it has bytes, and none of them ends it early. -/
def Text.NamesPath (t : Text) : Prop := ∃ octets, t.toBytes? = some octets ∧ 0 ∉ octets

theorem Text.namesPath_append {a b : Text} : NamesPath (a ++ b) ↔ a.NamesPath ∧ b.NamesPath := by
  constructor
  · rintro ⟨octets, hoctets, hzero⟩
    rw [toBytes?_append] at hoctets
    obtain ⟨x, hx, hrest⟩ := Option.bind_eq_some_iff.1 hoctets
    obtain ⟨y, hy, rfl⟩ := Option.map_eq_some_iff.1 hrest
    rw [List.mem_append, not_or] at hzero
    exact ⟨⟨x, hx, hzero.1⟩, ⟨y, hy, hzero.2⟩⟩
  · rintro ⟨⟨x, hx, hx0⟩, ⟨y, hy, hy0⟩⟩
    refine ⟨x ++ y, by rw [toBytes?_append, hx, hy]; rfl, ?_⟩
    rw [List.mem_append, not_or]
    exact ⟨hx0, hy0⟩

/-- Whether a failure is that of a text that names no path. -/
def Failure.OfText (failure : Failure) : Prop := failure = .unencodable ∨ failure = .nulInPath

/-- The paths that a call names. -/
def Call.paths : Call → List Text
  | createStaging path _ | openPrimary path | unlinkStaging path | unlinkBackup path => [path]
  | linkBackup primary backup | copyBackup primary backup => [primary, backup]
  | install staging primary => [staging, primary]
  | _ => []

namespace FileSystem

variable {fs : FileSystem} {path source target : Text} {failure : Failure}

theorem system_of_locate (hpath : path.NamesPath) (hlocate : fs.locate path = .error failure) :
    ∃ cause, failure = .system cause := by
  obtain ⟨octets, hoctets, hzero⟩ := hpath
  simp only [locate, hoctets, if_neg hzero] at hlocate
  repeat' split at hlocate
  all_goals
    cases hlocate
    try exact ⟨_, rfl⟩

theorem namesPath_of_create {mode : Nat} {created : FileId × FileSystem}
    (hcreate : fs.create path mode = .ok created) : path.NamesPath := by
  simp only [create, Bind.bind, Except.bind] at hcreate
  split at hcreate
  · cases hcreate
  · obtain ⟨octets, hoctets, hzero, -⟩ := locate_eq_ok_iff.1 ‹fs.locate path = .ok _›
    exact ⟨octets, hoctets, hzero⟩

theorem system_of_create {mode : Nat} (hpath : path.NamesPath)
    (hcreate : fs.create path mode = .error failure) : ∃ cause, failure = .system cause := by
  simp only [create, Bind.bind, Except.bind] at hcreate
  repeat' split at hcreate
  all_goals cases hcreate
  · exact system_of_locate hpath ‹_›
  · exact ⟨_, rfl⟩

theorem ofText_of_create {mode : Nat} (hpath : ¬path.NamesPath) :
    ∃ failure, fs.create path mode = .error failure ∧ failure.OfText := by
  have hlocate : ∃ failure, fs.locate path = .error failure ∧ failure.OfText := by
    unfold locate
    cases hoctets : path.toBytes? with
    | none => exact ⟨_, rfl, .inl rfl⟩
    | some octets =>
      have hzero : 0 ∈ octets := by
        by_contra hzero
        exact hpath ⟨octets, hoctets, hzero⟩
      simp only [if_pos hzero]
      exact ⟨_, rfl, .inr rfl⟩
  obtain ⟨failure, hlocate, hfailure⟩ := hlocate
  refine ⟨failure, ?_, hfailure⟩
  rw [create, hlocate]
  rfl

theorem system_of_openFile (hpath : path.NamesPath) (hopen : fs.openFile path = .error failure) :
    ∃ cause, failure = .system cause := by
  simp only [openFile, Bind.bind, Except.bind] at hopen
  repeat' split at hopen
  all_goals cases hopen
  · exact system_of_locate hpath ‹_›
  · exact ⟨_, rfl⟩
  · exact ⟨_, rfl⟩

theorem system_of_unlink (hpath : path.NamesPath) (hunlink : fs.unlink path = .error failure) :
    ∃ cause, failure = .system cause := by
  simp only [unlink, Bind.bind, Except.bind] at hunlink
  repeat' split at hunlink
  all_goals cases hunlink
  · exact system_of_locate hpath ‹_›
  · exact ⟨_, rfl⟩
  · exact ⟨_, rfl⟩

theorem system_of_link (hsource : source.NamesPath) (htarget : target.NamesPath)
    (hlink : fs.link source target = .error failure) : ∃ cause, failure = .system cause := by
  simp only [link, Bind.bind, Except.bind] at hlink
  repeat' split at hlink
  all_goals cases hlink
  · exact system_of_locate hsource ‹_›
  · exact ⟨_, rfl⟩
  · exact system_of_locate htarget ‹_›
  · exact ⟨_, rfl⟩
  · exact ⟨_, rfl⟩

theorem namesPath_copyTarget (hsource : source.NamesPath) (htarget : target.NamesPath) :
    (fs.copyTarget source target).NamesPath := by
  rw [copyTarget]
  split
  · have hsplit := List.takeWhile_append_dropWhile (p := (· ≠ CodePoint.ofChar '/')) (l := source.reverse)
    have hname : source = (source.reverse.dropWhile (· ≠ CodePoint.ofChar '/')).reverse ++
        (source.reverse.takeWhile (· ≠ CodePoint.ofChar '/')).reverse := by
      rw [← List.reverse_append, hsplit, List.reverse_reverse]
    rw [hname, Text.namesPath_append] at hsource
    refine Text.namesPath_append.2 ⟨htarget, ?_⟩
    have hslash : Text.NamesPath [CodePoint.ofChar '/'] := ⟨[0x2F], rfl, by decide⟩
    exact Text.namesPath_append.2 ⟨hslash, hsource.2⟩
  · exact htarget

theorem system_of_copy (hsource : source.NamesPath) (htarget : target.NamesPath)
    (hcopy : fs.copy source target = .error failure) : ∃ cause, failure = .system cause := by
  have htarget : (fs.copyTarget source target).NamesPath := namesPath_copyTarget hsource htarget
  simp only [copy, Bind.bind, Except.bind] at hcopy
  repeat' split at hcopy
  all_goals cases hcopy
  · rename_i hsame
    cases hsame
    exact ⟨_, rfl⟩
  all_goals first
    | exact ⟨_, rfl⟩
    | exact system_of_openFile hsource ‹_›
    | exact system_of_locate htarget ‹_›

theorem system_of_rename (hsource : source.NamesPath) (htarget : target.NamesPath)
    (hrename : fs.rename source target = .error failure) : ∃ cause, failure = .system cause := by
  simp only [rename, Bind.bind, Except.bind] at hrename
  repeat' split at hrename
  all_goals cases hrename
  all_goals first
    | exact ⟨_, rfl⟩
    | exact system_of_locate hsource ‹_›
    | exact system_of_locate htarget ‹_›

end FileSystem

theorem World.error_of_changing {w : World} {call : Except Failure FileSystem} {failure : Failure}
    (hanswer : (w.changing call).1 = .error failure) : call = .error failure := by
  cases call with
  | ok files => cases hanswer
  | error _ =>
    cases hanswer
    rfl

/-- A call on proper paths that nothing strikes fails with an error of the file system. -/
theorem Scene.system_of_perform {s : Scene} {c : Call} {failure : Failure}
    (hpaths : ∀ path ∈ c.paths, path.NamesPath) (hpoint : c.faultPoint?.isSome)
    (hperform : (s.perform c).1 = .error failure) : ∃ cause, failure = .system cause := by
  cases c with
  | createStaging path mode =>
    have hpath := hpaths path (List.mem_singleton_self path)
    simp only [perform, World.answer] at hperform
    split at hperform
    · cases hperform
    · cases hperform
      exact FileSystem.system_of_create hpath ‹_›
  | openPrimary path =>
    have hpath := hpaths path (List.mem_singleton_self path)
    simp only [perform, World.answer] at hperform
    split at hperform
    · cases hperform
    · cases hperform
      exact FileSystem.system_of_openFile hpath ‹_›
  | unlinkStaging path =>
    exact FileSystem.system_of_unlink (hpaths path (by simp [Call.paths])) (World.error_of_changing hperform)
  | unlinkBackup path =>
    exact FileSystem.system_of_unlink (hpaths path (by simp [Call.paths])) (World.error_of_changing hperform)
  | linkBackup primary backup =>
    exact FileSystem.system_of_link (hpaths primary (by simp [Call.paths]))
      (hpaths backup (by simp [Call.paths])) (World.error_of_changing hperform)
  | copyBackup primary backup =>
    exact FileSystem.system_of_copy (hpaths primary (by simp [Call.paths]))
      (hpaths backup (by simp [Call.paths])) (World.error_of_changing hperform)
  | install staging primary =>
    exact FileSystem.system_of_rename (hpaths staging (by simp [Call.paths]))
      (hpaths primary (by simp [Call.paths])) (World.error_of_changing hperform)
  | openStream | abandonStream | write | flush | sync | closeStaging | fetchLine | closePrimary =>
    cases hperform
  | _ => simp [Call.faultPoint?] at hpoint

end CredentialStore
