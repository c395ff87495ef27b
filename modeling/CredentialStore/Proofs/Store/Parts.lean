import CredentialStore.Store.Commit
import CredentialStore.Store.Rewrite

namespace CredentialStore

/-- Removes a staging file; that there is none is fine, and that it cannot be removed is noted. -/
def removeStaging {σ : Type} (part : Log.Part) (staging : Text) : Action σ Unit :=
  (Action.ask (.unlinkStaging staging)).onSystemError fun
    | .numbered .notFound => pure ()
    | _ => Action.note (.removeFailed part staging)

theorem Commit.discard_eq {σ : Type} (staging : Text) :
    (discard staging : Action σ Unit) = removeStaging .committing staging := rfl

namespace Rewrite

/-- Removes the staging file if this rewrite created it. -/
def removeOwned (r : Rewrite) : Action State Unit := do
  if (← get).owned then
    modify fun s => { s with owned := false }
    removeStaging .merging r.staging

theorem discard_eq (r : Rewrite) : r.discard = (do
    match (← get).stream with
    | none => pure ()
    | some file =>
      modify fun s => { s with stream := none }
      r.closeGivenUp file
    r.removeOwned) := rfl

/-- Creates the staging file, or tells that someone else holds the store. -/
def createFile (r : Rewrite) : Action State FileId :=
  (Action.ask (.createStaging r.staging r.mode)).onSystemError fun
    | .numbered .alreadyExists => Action.refuse (.busy r.staging)
    | e => throw (cannotOpen e)

theorem acquire_eq_bind (r : Rewrite) : r.acquire = (do
    let file ← r.createFile
    modify fun s => { s with owned := true }
    r.openStream file) := rfl

/-- Copies the primary file, if there is one. -/
def copyStore (r : Rewrite) : Action State Summary := do
  match ← r.openPrimary with
  | none => pure { storeExists := false }
  | some opened =>
    let seen ← r.copyLines opened
    Action.note (.merged r.primary seen.copied seen.dropped seen.matched.isSome)
    pure seen

theorem merge_eq (r : Rewrite) : r.merge = (do
    if (← get).stream.isNone then
      throw (.unexpected (text "merge() called before acquire()"))
    r.copyStore) := rfl

/-- Writes the line of a record, if it has one. -/
def writeLine (line? : Option Bytes) : Action State Unit :=
  match line? with
  | none => throw .unencodable
  | some line => write line

theorem append_eq (record : Record) : append record = (do
    if (← get).needsNewline then
      write [lineFeed]
    writeLine record.toLine?) := rfl

end Rewrite

end CredentialStore
