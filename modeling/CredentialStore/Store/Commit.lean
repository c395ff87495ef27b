import CredentialStore.Program.Action
import CredentialStore.Store.Paths

namespace CredentialStore.Commit

variable {σ : Type}

def failed (action : Text) (e : SystemError) : Failure := .credential (.onFile action e)

/-- Removes the previous backup; that there is none is fine. -/
def removeBackup (paths : StorePaths) : Action σ Unit :=
  (Action.ask (.unlinkBackup paths.backup)).onSystemError fun
    | .numbered .notFound => pure ()
    | e => throw (failed (text "failed to remove old backup password file") e)

/-- Whether an error says that hard links cannot be made here. -/
def isLinkUnsupported : SystemError → Bool
  | .numbered .crossDevice | .numbered .notPermitted | .numbered .notSupported => true
  | _ => false

/-- The primary file could not be preserved. -/
def cannotBackUp : SystemError → Failure := failed (text "failed to backup old password file")

/-- Copies the primary file to the backup path. False when there is no primary file. -/
def copyPrimary (paths : StorePaths) : Action σ Bool :=
  Action.onSystemError
    (do
      Action.ask (.copyBackup paths.primary paths.backup)
      pure true)
    fun
      | .numbered .notFound => pure false
      | e => throw (cannotBackUp e)

/-- Preserves the primary file at the backup path, by a hard link or else by a copy. False when there
    is no primary file. -/
def backUpPrimary (paths : StorePaths) : Action σ Bool := do
  match ← Action.attempt (Action.ask (.linkBackup paths.primary paths.backup)) with
  | .ok () => pure true
  | .error (.system (.numbered .notFound)) => pure false
  | .error (.system e) =>
    if isLinkUnsupported e then
      Action.note (.linkUnsupported paths.backup e.description)
      copyPrimary paths
    else throw (cannotBackUp e)
  | .error failure => throw failure

/-- Moves the staging file into the place of the primary one. -/
def installStaging (paths : StorePaths) : Action σ Unit :=
  (Action.ask (.install paths.staging paths.primary)).onSystemError fun e =>
    throw (failed (text "failed to rename password file") e)

/-- Removes a staging file; that there is none is fine, and that it cannot be removed is noted. -/
def discard (staging : Text) : Action σ Unit :=
  (Action.ask (.unlinkStaging staging)).onSystemError fun
    | .numbered .notFound => pure ()
    | _ => Action.note (.removeFailed .committing staging)

/-- The three steps. True when the primary file was preserved. -/
def steps (paths : StorePaths) : Action σ Bool := do
  removeBackup paths
  let backedUp ← backUpPrimary paths
  installStaging paths
  pure backedUp

/-- Installs the staging file, or removes it. -/
def commit (paths : StorePaths) : Action σ Unit := do
  let backedUp ← (steps paths).orCleanUp (discard paths.staging)
  Action.note (.installed paths.primary backedUp)

end CredentialStore.Commit
