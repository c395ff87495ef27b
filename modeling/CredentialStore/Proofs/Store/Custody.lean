import CredentialStore.Proofs.FileSystem.Adding
import CredentialStore.Proofs.Run.Abiding
import CredentialStore.Proofs.Store.Generations

namespace CredentialStore

open FileSystem StorePaths

/-- Whether the staging file of whoever holds it lies at the staging path. -/
def Standing.Kept (paths : StorePaths) (fs : FileSystem) (st : Standing) : Prop :=
  ∀ file, st = .holding file → ∃ directory, paths.LeadTo fs directory ∧
    fs.entry? (stagingAt directory) = some (.file file)

/-- What one step does to the files and to the staging file, by how its program stands before it. -/
inductive Custody (paths : StorePaths) : Standing → FileSystem → Event → FileSystem → Prop
  | aside {st : Standing} {fs : FileSystem} {e : Event} (hturn : e.turn? = none) : Custody paths st fs e fs
  | create {st : Standing} {fs fs' : FileSystem} {directory : Location} {mode : Nat} {file : FileId}
      {struck : Bool} (houtside : ¬st.IsHolding) (hlead : paths.LeadTo fs directory)
      (hfree : fs.entry? (stagingAt directory) = none) (hsound : fs'.Sound)
      (hlead' : paths.LeadTo fs' directory) (hentry' : fs'.entry? (stagingAt directory) = some (.file file)) :
      Custody paths st fs ⟨.createStaging paths.staging mode, .ok file, struck⟩ fs'
  | work {fs fs' : FileSystem} {directory : Location} {file : FileId} {e : Event} (hturn : e.turn? = none)
      (hsound : fs'.Sound) (hlead' : paths.LeadTo fs' directory)
      (hentry' : fs'.entry? (stagingAt directory) = some (.file file)) :
      Custody paths (.holding file) fs e fs'
  | letGo {fs fs' : FileSystem} {file : FileId} {e : Event}
      (hturn : e.turn? = some .removed ∨ e.turn? = some .installed) (hsound : fs'.Sound) :
      Custody paths (.holding file) fs e fs'

namespace Custody

variable {paths : StorePaths} {st : Standing} {fs fs' : FileSystem} {e : Event}

theorem sound (hcustody : Custody paths st fs e fs') (hsound : fs.Sound) : fs'.Sound := by
  cases hcustody <;> assumption

/-- Whoever neither holds the staging file nor comes to hold it leaves the files as they are. -/
theorem eq_of_outside (hcustody : Custody paths st fs e fs') (hbefore : ¬st.IsHolding)
    (hafter : ¬(st.next e).IsHolding) : fs' = fs := by
  cases hcustody with
  | aside => rfl
  | create => exact absurd ⟨_, rfl⟩ hafter
  | work => exact absurd ⟨_, rfl⟩ hbefore
  | letGo => exact absurd ⟨_, rfl⟩ hbefore

/-- Whoever comes to hold the staging file finds none. -/
theorem free_of_next (hcustody : Custody paths st fs e fs') (hbefore : ¬st.IsHolding)
    (hafter : (st.next e).IsHolding) :
    ∃ directory, paths.LeadTo fs directory ∧ fs.entry? (stagingAt directory) = none := by
  cases hcustody with
  | aside hturn =>
    rw [Standing.next, hturn, Option.getD_none] at hafter
    exact absurd hafter hbefore
  | create _ hlead hfree => exact ⟨_, hlead, hfree⟩
  | work => exact absurd ⟨_, rfl⟩ hbefore
  | letGo => exact absurd ⟨_, rfl⟩ hbefore

/-- Whoever creates the staging file did not hold it. -/
theorem outside_of_turn (hcustody : Custody paths st fs e fs') {file : FileId}
    (hturn : e.turn? = some (.holding file)) : ¬st.IsHolding := by
  cases hcustody with
  | aside hnone => cases hnone.symm.trans hturn
  | create houtside => exact houtside
  | work hnone => cases hnone.symm.trans hturn
  | letGo hother => rcases hother with hother | hother <;> cases hother.symm.trans hturn

theorem kept (hcustody : Custody paths st fs e fs') (hkept : st.Kept paths fs) :
    (st.next e).Kept paths fs' := by
  cases hcustody with
  | aside hturn => rwa [Standing.next, hturn, Option.getD_none]
  | create _ _ _ _ hlead' hentry' =>
    intro file hfile
    cases hfile
    exact ⟨_, hlead', hentry'⟩
  | work hturn _ hlead' hentry' =>
    rw [Standing.next, hturn, Option.getD_none]
    intro file hfile
    cases hfile
    exact ⟨_, hlead', hentry'⟩
  | letGo hturn =>
    intro file hfile
    rcases hturn with hturn | hturn <;> cases (congrArg (Option.getD · _) hturn).symm.trans hfile

/-- The holder's step that takes nothing away. -/
theorem of_added {file : FileId} (hkept : (Standing.holding file).Kept paths fs) (hadded : Added fs fs')
    (hturn : e.turn? = none) : Custody paths (.holding file) fs e fs' := by
  obtain ⟨directory, hlead, hentry⟩ := hkept file rfl
  exact .work hturn hadded.sound (hlead.of_directory_iff hadded.directory) (hadded.entry _ _ hentry)

/-- A step of the holder that changes the files, or fails and changes nothing. -/
theorem of_changing {file : FileId} {w : World} {effect : Except Failure FileSystem} {c : Call}
    (reply : Except Failure Unit → c.Answer) (hfailed : ∀ failure, reply (.error failure) = .error failure)
    (hok : ∀ after, effect = .ok after →
      Custody paths (.holding file) w.files ⟨c, reply (.ok ()), false⟩ after) :
    Custody paths (.holding file) w.files ⟨c, reply (w.changing effect).1, false⟩ (w.changing effect).2.files := by
  cases effect with
  | ok after => exact hok after rfl
  | error failure =>
    refine .aside ?_
    simp only [World.changing, hfailed, Event.turn?_error]

/-- The staging file is created where none lies, and so by no one who holds one. -/
theorem of_create {root : Text} {mode : Nat} {file : FileId} (hsound : fs.Sound)
    (hkept : st.Kept (locate root) fs) (hcreate : fs.create (locate root).staging mode = .ok (file, fs')) :
    Custody (locate root) st fs ⟨.createStaging (locate root).staging mode, .ok file, false⟩ fs' := by
  obtain ⟨directory, hlead, hfree, hchanged, hheld, -⟩ := Held.of_create hsound hcreate
  refine .create ?_ hlead hfree hheld.sound hheld.lead hheld.entry_staging
  rintro ⟨other, hother⟩
  obtain ⟨directory', hlead', hentry⟩ := hkept other hother
  rw [← hlead.unique hlead', hfree] at hentry
  cases hentry

end Custody

variable {root : Text} {st : Standing} {s s' : Scene} {c : Call} {answer : c.Answer} {struck : Bool}

/-- A call that fits keeps the staging file in custody. -/
theorem Scene.Answers.custody (hsound : s.world.files.Sound)
    (hkept : st.Kept (locate root) s.world.files) (hfits : c.Fits (locate root) st)
    (hanswer : Scene.Answers .foreign s ⟨c, answer, struck⟩ s') :
    Custody (locate root) st s.world.files ⟨c, answer, struck⟩ s'.world.files := by
  cases hanswer with
  | struck => exact .aside (Event.turn?_error c _ true)
  | performed =>
    have haside : c.LeavesFiles → Custody (locate root) st s.world.files ⟨c, (s.perform c).1, false⟩
        (s.perform c).2.world.files := by
      intro hleaves
      simp only [hleaves.perform_eq, hleaves.files_answer]
      exact .aside (hleaves.turn?_eq _ _)
    cases c with
    | createStaging path mode =>
      cases hfits
      simp only [perform, World.answer]
      split
      · rename_i hcreate
        exact .of_create hsound hkept hcreate
      · exact .aside rfl
    | write id octets =>
      obtain ⟨file, rfl⟩ := hfits
      exact .of_added hkept (added_change hsound id _) rfl
    | unlinkStaging path =>
      obtain ⟨rfl, file, rfl⟩ := hfits
      refine .of_changing (c := .unlinkStaging _) (fun answer => answer) (fun _ => rfl) fun after hunlink => ?_
      obtain ⟨directory, hlead, hentry⟩ := hkept file rfl
      rw [unlink_of_locate hlead.staging, hentry] at hunlink
      cases hunlink
      exact .letGo (.inl rfl) (hsound.unbind (stagingAt_ne_nil directory) (by simp [hentry]))
    | unlinkBackup path =>
      obtain ⟨rfl, file, rfl⟩ := hfits
      refine .of_changing (c := .unlinkBackup _) (fun answer => answer) (fun _ => rfl) fun after hunlink => ?_
      obtain ⟨directory, hlead, hentry⟩ := hkept file rfl
      rw [unlink_of_locate hlead.backup] at hunlink
      split at hunlink
      · cases hunlink
      · cases hunlink
      · rename_i id hbackup
        cases hunlink
        have hchanged := changedOnly_unbind (backupAt_ne_nil directory) hbackup
        refine .work rfl (hsound.unbind (backupAt_ne_nil directory) (by simp [hbackup]))
          (hlead.of_directory_iff hchanged.directory) ?_
        rw [hchanged.entry _ (by simp [(backupAt_ne_stagingAt directory).symm]), hentry]
    | linkBackup primary backup =>
      obtain ⟨file, rfl⟩ := hfits
      exact .of_changing (c := .linkBackup _ _) (fun answer => answer) (fun _ => rfl) fun after hlink =>
        .of_added hkept (added_of_link hsound hlink) rfl
    | copyBackup primary backup =>
      obtain ⟨file, rfl⟩ := hfits
      exact .of_changing (c := .copyBackup _ _) (fun answer => answer) (fun _ => rfl) fun after hcopy =>
        .of_added hkept (added_of_copy hsound hcopy) rfl
    | install staging primary =>
      obtain ⟨⟨rfl, rfl⟩, file, rfl⟩ := hfits
      refine .of_changing (c := .install _ _) (fun answer => answer) (fun _ => rfl) fun after hrename => ?_
      obtain ⟨directory, hlead, hentry⟩ := hkept file rfl
      exact .letGo (.inr rfl) (Commit.Installs.of_rename hsound hlead hentry hrename).sound
    | nextAnswer | readTerminal | beginTransaction | setUpLog => exact hfits.elim
    | openStream | abandonStream | flush | sync | closeStaging | openPrimary | fetchLine | closePrimary | log =>
      exact haside trivial

/-- A staging file that is not created changes nothing. -/
theorem Scene.Answers.files_of_refused {strikes : Strikes} {path : Text} {mode : Nat} {failure : Failure}
    (hanswer : Scene.Answers strikes s ⟨.createStaging path mode, .error failure, struck⟩ s') :
    s'.world.files = s.world.files := by
  obtain ⟨-, hperformed, rfl⟩ | ⟨_, -, -, -, rfl⟩ := hanswer.performed_or_struck
  · simp only [perform, World.answer] at hperformed ⊢
    split at hperformed
    · cases hperformed
    · rfl
  · rfl

/-- The answer to a call that fits is one that the program has to expect. -/
theorem Scene.Answers.admits (hsound : s.world.files.Sound) (hkept : st.Kept (locate root) s.world.files)
    (hfits : c.Fits (locate root) st) (hanswer : Scene.Answers .foreign s ⟨c, answer, struck⟩ s') :
    c.Admits st answer := by
  refine ⟨fun file hturn => ?_, fun error herror => ?_⟩
  · exact (hanswer.custody hsound hkept hfits).outside_of_turn ((Event.turn?_struck ⟨c, answer, struck⟩).trans hturn)
  subst herror
  by_cases hpoint : c.faultPoint?.isSome
  · exact hanswer.ne_credential_of_fails ⟨hpoint, rfl⟩ error rfl
  · obtain ⟨-, hperformed, -⟩ | ⟨_, -, -, hstrikes, -⟩ := hanswer.performed_or_struck
    · cases c <;> first | exact hpoint rfl | exact hfits.elim | cases hperformed
    · exact hpoint hstrikes.1

end CredentialStore
