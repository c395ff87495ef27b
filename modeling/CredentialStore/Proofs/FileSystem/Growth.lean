import CredentialStore.Proofs.FileSystem.Entries
import CredentialStore.Proofs.Run.Basic

namespace CredentialStore

namespace FileSystem

variable {fs fs' : FileSystem}

theorem length_le_of_create {path : Text} {mode : Nat} {file : FileId}
    (hcreate : fs.create path mode = .ok (file, fs')) : fs.files.length ≤ fs'.files.length := by
  simp only [create, Bind.bind, Except.bind] at hcreate
  split at hcreate
  · cases hcreate
  · split at hcreate
    · cases hcreate
    · cases hcreate
      rw [length_bindNew]
      exact Nat.le_succ _

theorem length_eq_of_unlink {path : Text} (hunlink : fs.unlink path = .ok fs') :
    fs'.files.length = fs.files.length := by
  simp only [unlink, Bind.bind, Except.bind] at hunlink
  split at hunlink
  · cases hunlink
  · split at hunlink <;> cases hunlink
    rfl

theorem length_eq_of_link {source target : Text} (hlink : fs.link source target = .ok fs') :
    fs'.files.length = fs.files.length := by
  simp only [link, Bind.bind, Except.bind] at hlink
  split at hlink
  · cases hlink
  · split at hlink
    · cases hlink
    · split at hlink
      · cases hlink
      · split at hlink <;> cases hlink
        rfl

theorem length_eq_of_rename {source target : Text} (hrename : fs.rename source target = .ok fs') :
    fs'.files.length = fs.files.length := by
  simp only [rename, Bind.bind, Except.bind] at hrename
  split at hrename
  · cases hrename
  · split at hrename
    · cases hrename
    · split at hrename
      · cases hrename
      · cases hrename
        split <;> rfl
      · cases hrename
      · cases hrename
      · split at hrename
        · cases hrename
          rfl
        · split at hrename <;> cases hrename
          rfl
      · cases hrename
        rfl

theorem length_le_of_copy {source target : Text} (hcopy : fs.copy source target = .ok fs') :
    fs.files.length ≤ fs'.files.length := by
  simp only [copy, Bind.bind, Except.bind] at hcopy
  repeat' split at hcopy
  all_goals cases hcopy
  all_goals first
    | exact Nat.le_succ_of_le (Nat.le_of_eq rfl)
    | simp only [length_bindNew, length_change, Nat.le_refl, Nat.le_succ]

end FileSystem

theorem World.length_files_changing (w : World) {call : Except Failure FileSystem}
    (hcall : ∀ fs, call = .ok fs → w.files.files.length ≤ fs.files.length) :
    w.files.files.length ≤ (w.changing call).2.files.files.length := by
  cases call with
  | ok fs => exact hcall fs rfl
  | error failure => exact Nat.le_refl _

/-- No call forgets a file. -/
theorem World.length_files_le (w : World) (c : Call) :
    w.files.files.length ≤ (w.answer c).2.files.files.length := by
  cases c with
  | createStaging path mode =>
    simp only [answer]
    split
    · rename_i hcreate
      exact FileSystem.length_le_of_create hcreate
    · exact Nat.le_refl _
  | write id octets => simp only [answer, FileSystem.append, FileSystem.length_change, Nat.le_refl]
  | openPrimary path =>
    simp only [answer]
    split <;> exact Nat.le_refl _
  | unlinkStaging path =>
    exact length_files_changing w fun _ h => Nat.le_of_eq (FileSystem.length_eq_of_unlink h).symm
  | unlinkBackup path =>
    exact length_files_changing w fun _ h => Nat.le_of_eq (FileSystem.length_eq_of_unlink h).symm
  | linkBackup primary backup =>
    exact length_files_changing w fun _ h => Nat.le_of_eq (FileSystem.length_eq_of_link h).symm
  | copyBackup primary backup => exact length_files_changing w fun _ h => FileSystem.length_le_of_copy h
  | install staging primary =>
    exact length_files_changing w fun _ h => Nat.le_of_eq (FileSystem.length_eq_of_rename h).symm
  | log event =>
    simp only [answer, record]
    split
    · exact Nat.le_refl _
    · split <;> exact Nat.le_refl _
  | setUpLog options =>
    simp only [answer]
    split <;> exact Nat.le_refl _
  | beginTransaction => simp only [answer, beginTransaction, Nat.le_refl]
  | _ => exact Nat.le_refl _

theorem Scene.files_perform (s : Scene) (c : Call) :
    (s.perform c).2.world.files = s.world.files ∨
      (s.perform c).2.world.files = (s.world.answer c).2.files := by
  cases c with
  | nextAnswer prompt => exact .inl rfl
  | readTerminal prompt => exact .inl rfl
  | _ => exact .inr rfl

theorem Scene.Answers.length_files_le {strikes : Strikes} {s s' : Scene} {e : Event}
    (hanswers : Scene.Answers strikes s e s') :
    s.world.files.files.length ≤ s'.world.files.files.length := by
  cases hanswers with
  | struck => exact Nat.le_refl _
  | performed c =>
    rcases Scene.files_perform s c with hsame | hanswer
    · exact Nat.le_of_eq (congrArg (·.files.length) hsame.symm)
    · rw [hanswer]
      exact World.length_files_le s.world c

end CredentialStore
