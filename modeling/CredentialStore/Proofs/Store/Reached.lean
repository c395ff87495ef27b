import CredentialStore.Proofs.Store.Holding

namespace CredentialStore

open FileSystem StorePaths

theorem StorePaths.LeadTo.of_changedOnly {paths : StorePaths} {fs fs' : FileSystem}
    {directory : Location} {changed : List Location} (hlead : paths.LeadTo fs directory)
    (hchanged : ChangedOnly changed fs fs') : paths.LeadTo fs' directory :=
  hlead.of_directory_iff hchanged.directory

theorem FileSystem.ChangedOnly.contents?_primary {paths : StorePaths} {fs fs' : FileSystem}
    {directory : Location} {changed : List Location} (hchanged : ChangedOnly changed fs fs')
    (hsound : fs.Sound) (hsound' : fs'.Sound) (hlead : paths.LeadTo fs directory)
    (hprimary : primaryAt directory ∉ changed) :
    fs'.contents? paths.primary = fs.contents? paths.primary := by
  rw [contents?_of_locate hsound' (hlead.of_changedOnly hchanged).primary,
    contents?_of_locate hsound hlead.primary, hchanged.fileAt _ hprimary]

/-- What files a program can have made of the files `before`, by how it stands to the staging file. -/
inductive Reached (paths : StorePaths) (update : Option Bytes → Option Bytes) (before : FileSystem) :
    Standing → FileSystem → Prop
  | outside : Reached paths update before .outside before
  | holding {directory : Location} {file : FileId} {now : FileSystem}
      (hlead : paths.LeadTo before directory) (hfree : before.entry? (stagingAt directory) = none)
      (hentry : now.entry? (stagingAt directory) = some (.file file)) (hsound : now.Sound)
      (hchanged : ChangedOnly [stagingAt directory, backupAt directory] before now) :
      Reached paths update before (.holding file) now
  | removed {directory : Location} {now : FileSystem}
      (hlead : paths.LeadTo before directory) (hfree : before.entry? (stagingAt directory) = none)
      (hentry : now.entry? (stagingAt directory) = none) (hsound : now.Sound)
      (hchanged : ChangedOnly [stagingAt directory, backupAt directory] before now) :
      Reached paths update before .removed now
  | installed {directory : Location} {now : FileSystem}
      (hlead : paths.LeadTo before directory) (hfree : before.entry? (stagingAt directory) = none)
      (hentry : now.entry? (stagingAt directory) = none) (hsound : now.Sound)
      (hchanged : ChangedOnly [stagingAt directory, backupAt directory, primaryAt directory] before now)
      (hupdate : now.contents? paths.primary = update (before.contents? paths.primary)) :
      Reached paths update before .installed now

namespace Reached

variable {paths : StorePaths} {update : Option Bytes → Option Bytes} {before fs fs' : FileSystem}
  {st : Standing} {e : Event}

/-- A step of the conduct leads from reached files to reached files. -/
theorem step (hbefore : before.Sound) (hreached : Reached paths update before st fs)
    (hconduct : Conduct paths update st fs e fs') : Reached paths update before (st.next e) fs' := by
  cases hconduct with
  | aside hturn =>
    rw [Standing.next, hturn, Option.getD_none]
    exact hreached
  | create hlead hfree hentry hfresh hsound hchanged =>
    cases hreached
    exact .holding hlead hfree hentry hsound (hchanged.mono (by simp))
  | work hturn hlead hentry hentry' hsound hchanged =>
    cases hreached with
    | holding hlead₀ hfree _ hsound₀ hchanged₀ =>
      rw [Standing.next, hturn, Option.getD_none]
      rw [← (hlead₀.of_changedOnly hchanged₀).unique hlead] at hentry' hchanged
      exact .holding hlead₀ hfree hentry' hsound (hchanged₀.trans hchanged)
  | remove hlead hentry hentry' hsound hchanged =>
    cases hreached with
    | holding hlead₀ hfree _ hsound₀ hchanged₀ =>
      rw [← (hlead₀.of_changedOnly hchanged₀).unique hlead] at hentry' hchanged
      exact .removed hlead₀ hfree hentry' hsound (hchanged₀.trans (hchanged.mono (by simp)))
  | install hlead hentry hentry' hsound hchanged hupdate =>
    cases hreached with
    | holding hlead₀ hfree _ hsound₀ hchanged₀ =>
      rw [← (hlead₀.of_changedOnly hchanged₀).unique hlead] at hentry' hchanged
      refine .installed hlead₀ hfree hentry' hsound ?_ ?_
      · exact (hchanged₀.mono (by simp)).trans (hchanged.mono (by simp))
      · rw [hupdate, hchanged₀.contents?_primary hbefore hsound₀ hlead₀ (by simp)]

theorem of_follows {strikes : Strikes} {assumes : FileSystem → Prop} {tr : Trace}
    (hbefore : before.Sound) (hreached : Reached paths update before st fs)
    (hfollows : (storeContract strikes assumes paths update).Follows st fs tr fs') :
    Reached paths update before (tr.foldl Standing.next st) fs' := by
  induction hfollows with
  | nil st fs => exact hreached
  | cons hstep hrest ih => exact ih (hreached.step hbefore hstep)

theorem sound (hbefore : before.Sound) (hreached : Reached paths update before st fs) : fs.Sound := by
  cases hreached <;> assumption

/-- The primary file changes only when the staging file is installed. -/
theorem primary_eq (hbefore : before.Sound) (hreached : Reached paths update before st fs)
    (hst : st ≠ .installed) :
    fs.contents? paths.primary = before.contents? paths.primary ∧
      fs.entryAt? paths.primary = before.entryAt? paths.primary := by
  have hsame : ∀ {directory}, paths.LeadTo before directory → fs.Sound →
      ChangedOnly [stagingAt directory, backupAt directory] before fs →
      fs.contents? paths.primary = before.contents? paths.primary ∧
        fs.entryAt? paths.primary = before.entryAt? paths.primary := by
    intro directory hlead hsound hchanged
    refine ⟨hchanged.contents?_primary hbefore hsound hlead (by simp), ?_⟩
    rw [entryAt?_of_locate (hlead.of_changedOnly hchanged).primary, entryAt?_of_locate hlead.primary]
    exact hchanged.entry _ (by simp)
  cases hreached with
  | outside => exact ⟨rfl, rfl⟩
  | holding hlead _ _ hsound hchanged => exact hsame hlead hsound hchanged
  | removed hlead _ _ hsound hchanged => exact hsame hlead hsound hchanged
  | installed => exact absurd rfl hst

theorem eq_of_outside (hreached : Reached paths update before .outside fs) : fs = before := by
  cases hreached
  rfl

theorem eq_of_staging (hreached : Reached paths update before st fs)
    (hstaging : before.entryAt? paths.staging ≠ none) : fs = before := by
  have hbusy : ∀ {directory}, paths.LeadTo before directory →
      before.entry? (stagingAt directory) ≠ none := by
    intro directory hlead
    rwa [← entryAt?_of_locate hlead.staging]
  cases hreached with
  | outside => rfl
  | holding hlead hfree => exact absurd hfree (hbusy hlead)
  | removed hlead hfree => exact absurd hfree (hbusy hlead)
  | installed hlead hfree => exact absurd hfree (hbusy hlead)

theorem staging_eq_none (hreached : Reached paths update before .removed fs) :
    fs.entryAt? paths.staging = none := by
  cases hreached with
  | removed hlead _ hentry _ hchanged =>
    rw [entryAt?_of_locate (hlead.of_changedOnly hchanged).staging, hentry]

/-- Nothing changes outside of the three files of the store. -/
theorem confined (hreached : Reached paths update before st fs) :
    fs = before ∨ ∃ directory, paths.LeadTo before directory ∧
      ChangedOnly [stagingAt directory, backupAt directory, primaryAt directory] before fs := by
  cases hreached with
  | outside => exact .inl rfl
  | holding hlead _ _ _ hchanged => exact .inr ⟨_, hlead, hchanged.mono (by simp)⟩
  | removed hlead _ _ _ hchanged => exact .inr ⟨_, hlead, hchanged.mono (by simp)⟩
  | installed hlead _ _ _ hchanged => exact .inr ⟨_, hlead, hchanged⟩

theorem contents?_of_installed (hreached : Reached paths update before .installed fs) :
    fs.contents? paths.primary = update (before.contents? paths.primary) := by
  cases hreached with
  | installed _ _ _ _ _ hupdate => exact hupdate

end Reached

end CredentialStore
