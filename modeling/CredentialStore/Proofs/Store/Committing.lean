import CredentialStore.Proofs.Store.Staging
import CredentialStore.Store.Commit

namespace CredentialStore.Commit

open FileSystem StorePaths

variable {strikes : Strikes} {assumes : FileSystem → Prop} {paths : StorePaths}
  {update : Option Bytes → Option Bytes} {σ : Type} {state : σ} {directory : Location}
  {before : FileSystem} {file : FileId} {written : Bytes} {tr : Trace} {s : Scene}

/-- The previous backup is removed, unless a directory lies in its place or a failure strikes. -/
theorem safe_removeBackup (hhonest : strikes.Honest)
    (hholds : Holds paths directory before file written tr s)
    {post : Except Failure Unit → σ → Trace → Scene → Prop}
    (hok : ∀ tr' s', Holds paths directory before file written tr' s' →
      s'.world.files.entry? (backupAt directory) = none → post (.ok ()) state tr' s')
    (hfailed : ∀ failure tr' s', Holds paths directory before file written tr' s' →
      Hindered directory before tr' → post (.error failure) state tr' s') :
    (removeBackup paths).Safe (storeContract strikes assumes paths update) post state tr s := by
  refine Action.safe_onSystemError (hholds.safe_unlinkBackup hhonest hok hok ?_)
  intro failure tr' s' hafter hhindered hmiss
  exact Action.orElse_unlessMissing hmiss fun failure => hfailed failure tr' s' hafter hhindered

/-- The primary file is copied to the backup path, if there is one. -/
theorem safe_copyPrimary (hholds : Holds paths directory before file written tr s)
    (hnone : s.world.files.entry? (backupAt directory) = none)
    {post : Except Failure Bool → σ → Trace → Scene → Prop}
    (hok : ∀ backedUp tr' s', Holds paths directory before file written tr' s' →
      post (.ok backedUp) state tr' s')
    (hfailed : ∀ failure tr' s', Holds paths directory before file written tr' s' →
      Hindered directory before tr' → post (.error failure) state tr' s') :
    (copyPrimary paths).Safe (storeContract strikes assumes paths update) post state tr s := by
  refine Action.safe_onSystemError (Action.safe_bind (hholds.safe_copyBackup hnone ?_ ?_))
  · intro tr' s' hafter
    exact hok true tr' s' hafter
  · intro failure tr' s' hafter hwhy
    by_cases hmiss : failure = .numbered .notFound
    · subst hmiss
      exact hok false tr' s' hafter
    · exact Action.orElse_unlessMissing hmiss fun failure =>
        hfailed failure tr' s' hafter (hwhy.resolve_left hmiss)

/-- The primary file is preserved by a link or by a copy, if there is one. -/
theorem safe_backUpPrimary (hhonest : strikes.Honest)
    (hholds : Holds paths directory before file written tr s)
    (hnone : s.world.files.entry? (backupAt directory) = none)
    {post : Except Failure Bool → σ → Trace → Scene → Prop}
    (hok : ∀ backedUp tr' s', Holds paths directory before file written tr' s' →
      post (.ok backedUp) state tr' s')
    (hfailed : ∀ failure tr' s', Holds paths directory before file written tr' s' →
      Hindered directory before tr' → post (.error failure) state tr' s') :
    (backUpPrimary paths).Safe (storeContract strikes assumes paths update) post state tr s := by
  refine Action.safe_bind (Action.safe_attempt (hholds.safe_linkBackup hnone ?_ ?_))
  · intro tr' s' hafter
    exact Action.safe_pure (hok true tr' s' hafter)
  · intro failure tr' s' hafter hnone hwhy
    cases failure with
    | system error =>
      by_cases hmiss : error = .numbered .notFound
      · subst hmiss
        exact Action.safe_pure (hok false tr' s' hafter)
      · have hhindered := hwhy.resolve_left fun hequal => hmiss (Failure.system.inj hequal)
        have hother : Action.Safe (storeContract strikes assumes paths update)
            (if isLinkUnsupported error then do
              Action.note (.linkUnsupported paths.backup error.description)
              copyPrimary paths
            else throw (cannotBackUp error)) post state tr' s' := by
          split
          · refine Action.safe_bind (hafter.safe_note hhonest _ fun tr'' s'' hafter hfiles => ?_)
            exact safe_copyPrimary hafter (hfiles ▸ hnone) hok hfailed
          · exact Action.safe_throw (hfailed _ tr' s' hafter hhindered)
        cases error with
        | unnumbered notice => exact hother
        | numbered errno => cases errno <;> first | exact absurd rfl hmiss | exact hother
    | _ =>
      have hhindered := hwhy.resolve_left fun hequal => Failure.noConfusion hequal
      exact Action.safe_throw (hfailed _ tr' s' hafter hhindered)

/-- The staging file is installed, unless a directory is in the way or a failure strikes. -/
theorem safe_installStaging (hholds : Holds paths directory before file written tr s)
    (hupdate : update (before.contents? paths.primary) = some written)
    {post : Except Failure Unit → σ → Trace → Scene → Prop}
    (hok : ∀ (tr' : Trace) s', tr'.standing = .installed → post (.ok ()) state tr' s')
    (hfailed : ∀ failure tr' s', Holds paths directory before file written tr' s' →
      Hindered directory before tr' → post (.error failure) state tr' s') :
    (installStaging paths).Safe (storeContract strikes assumes paths update) post state tr s := by
  refine Action.safe_onSystemError (hholds.safe_install hupdate hok ?_)
  intro failure tr' s' hafter hhindered
  exact Action.orElse_throw (fun _ => ⟨_, rfl⟩)
    (fun failure => hfailed failure tr' s' hafter hhindered) failure

/-- A commit installs the staging file; where it fails the staging file is given up. -/
theorem safe_commit (hhonest : strikes.Honest) (honly : strikes.OnlySystem)
    (hholds : Holds paths directory before file written tr s)
    (hupdate : update (before.contents? paths.primary) = some written)
    {post : Except Failure Unit → σ → Trace → Scene → Prop}
    (hok : ∀ (tr' : Trace) s', tr'.standing = .installed → post (.ok ()) state tr' s')
    (hfailed : ∀ failure (tr' : Trace) s', tr'.GivenUp → Hindered directory before tr' →
      post (.error failure) state tr' s') :
    (commit paths).Safe (storeContract strikes assumes paths update) post state tr s := by
  have hcleanUp : ∀ (post' : Except Failure Bool → σ → Trace → Scene → Prop) failure tr' s',
      Holds paths directory before file written tr' s' → Hindered directory before tr' →
      (∀ (tr'' : Trace) s'', tr''.GivenUp → Hindered directory before tr'' →
        post' (.error failure) state tr'' s'') →
      (discard paths.staging).Safe (storeContract strikes assumes paths update)
        (Action.andThen (storeContract strikes assumes paths update) (fun _ => throw failure) post')
        state tr' s' := by
    intro post' failure tr' s' hafter hhindered hpost'
    refine hafter.safe_giveUp hhonest honly _ fun tr'' s'' hgiven hbegins => ?_
    exact Action.safe_throw (hpost' tr'' s'' hgiven (hhindered.extended hbegins))
  refine Action.safe_bind (Action.safe_orCleanUp ?_)
  have hfail : ∀ failure tr' s', Holds paths directory before file written tr' s' →
      Hindered directory before tr' → _ := fun failure tr' s' hafter hhindered =>
    hcleanUp (Action.andThen (storeContract strikes assumes paths update)
      (fun backedUp => Action.note (.installed paths.primary backedUp)) post) failure tr' s' hafter hhindered
      fun tr'' s'' => hfailed failure tr'' s''
  refine Action.safe_bind (safe_removeBackup hhonest hholds ?_ ?_)
  · intro tr' s' hafter hnone
    rw [Action.andThen_ok]
    refine Action.safe_bind (safe_backUpPrimary hhonest hafter hnone ?_ ?_)
    · intro backedUp tr' s' hafter
      rw [Action.andThen_ok]
      refine Action.safe_bind (safe_installStaging hafter hupdate ?_ ?_)
      · intro tr' s' hinstalled
        refine Action.safe_note hhonest _ fun s₀ _ s' _ _ => hok _ s' ?_
        rw [Trace.standing_append_singleton, hinstalled]
        rfl
      · exact hfail
    · exact hfail
  · exact hfail

end CredentialStore.Commit
