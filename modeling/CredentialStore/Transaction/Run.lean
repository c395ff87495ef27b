import CredentialStore.Secret.Authenticator
import CredentialStore.Store.Commit
import CredentialStore.Store.Rewrite
import CredentialStore.Transaction.Permission

namespace CredentialStore.Transaction

/-- How far the transaction and its rewrite have come. -/
structure Progress where
  phase : Phase := .start
  rewrite : Rewrite.State := {}
  deriving DecidableEq, Repr

/-- The secrets that a transaction works with. -/
structure Secrets where
  /-- Holds the old secret of a caller who has to know it. -/
  authenticator : Option Authenticator := none
  new : Option Secret := none
  deriving DecidableEq, Repr

def enter (phase : Phase) : Action Progress Unit := modify fun p => { p with phase }

def rewriting {α : Type} (step : Action Rewrite.State α) : Action Progress α :=
  step.onPart Progress.rewrite fun p rewrite => { p with rewrite }

/-- Asks for all secrets: the old one of an unprivileged caller who changes it, and a new one unless
    the record is deleted. -/
def gatherSecrets (t : Transaction) : Action Progress Secrets := do
  let authenticator ←
    if t.operation = .change ∧ t.settings.privileged = false then
      some <$> Authenticator.acquire { realm := t.settings.digestRealm } t.source
    else pure none
  let new ←
    if t.operation = .delete then pure none
    else some <$> Prompt.newSecret t.source t.identity
  pure { authenticator, new }

/-- Whether the record has to be there. -/
def requiresMatch (t : Transaction) : Bool :=
  match t.operation with
  | .change => true
  | .delete => !t.settings.allowMissingDelete
  | .add => false

/-- The rewrite that leaves out the record of the transaction. -/
def rewrite (t : Transaction) : Rewrite where
  primary := t.settings.paths.primary
  staging := t.settings.paths.staging
  identity := t.identity
  realm := t.realm
  mode := t.settings.stagingMode

/-- Checks the record that was found: whether it has to be there, and whether its secret is known. -/
def checkMatched (t : Transaction) (secrets : Secrets) (matched : Option Record) :
    Except Failure Unit :=
  match matched with
  | none => if t.requiresMatch then throw (.credential (.notFound t.identity t.realm)) else pure ()
  | some record =>
    match secrets.authenticator with
    | none => pure ()
    | some authenticator => authenticator.verify record

/-- The record with the new secret, if there is to be one. -/
def newRecord (t : Transaction) (secrets : Secrets) : Except Failure (Option Record) :=
  match secrets.new with
  | none => pure none
  | some secret =>
    match Token.of? t.identity (t.settings.realmForDigest t.realm) secret.octets with
    | none => throw .unencodable
    | some token => pure (some ⟨t.identity, t.realm, token⟩)

/-- Fails, or goes on with a value. -/
def check {α : Type} : Except Failure α → Action Progress α
  | .ok value => pure value
  | .error failure => throw failure

/-- Writes the new store into the staging file and closes it. Gives the record that was written. -/
def prepare (t : Transaction) (secrets : Secrets) : Action Progress (Option Record) := do
  let seen ← rewriting t.rewrite.merge
  enter .merged
  check (t.checkMatched secrets seen.matched)
  let record ← check (t.newRecord secrets)
  match record with
  | none => pure ()
  | some record => rewriting (Rewrite.append record)
  if seen.matched.isSome ∧ t.operation = .add then
    Action.note (.replacedExisting t.identity t.realm)
  rewriting t.rewrite.close
  enter .validated
  pure record

def apply (t : Transaction) (secrets : Secrets) : Action Progress (Option Record) := do
  modify fun p => { p with rewrite := {} }
  rewriting t.rewrite.acquire
  enter .gated
  let record ← (t.prepare secrets).orCleanUp (rewriting t.rewrite.discard)
  rewriting Rewrite.release
  Commit.commit t.settings.paths
  enter .committed
  pure record

/-- Runs the transaction. It fails where it cannot be committed. -/
def run (t : Transaction) : Action Progress (Option Record) := do
  Action.ask .beginTransaction
  enter .start
  Action.note (.audit (.started t.operation.name t.identity t.realm t.settings.user))
  Action.ofExcept (Policy.validateField (text "username") t.identity)
  Action.ofExcept (Policy.validateField (text "group") t.realm)
  checkPermission t.settings t.operation t.identity
  let secrets ← t.gatherSecrets
  t.apply secrets

/-- The report of a transaction that an error of the store ended. -/
def aborted (t : Transaction) (failedIn : Phase) (error : CredentialError) : Report where
  outcome := .ofError error
  operation := t.operation
  identity := t.identity
  realm := t.realm
  phase := .aborted
  failedIn := some failedIn
  error := some error

/-- Runs the transaction and reports how it ended; only a failure that is no error of the store
    passes. -/
def execute (t : Transaction) : Action Progress Report := do
  match ← Action.attempt t.run with
  | .ok record =>
    Action.note (.audit (.committed t.operation.name t.identity t.realm))
    pure
      { outcome := .committed, operation := t.operation, identity := t.identity, realm := t.realm
        phase := (← get).phase, record }
  | .error (.credential error) =>
    let failedIn := (← get).phase
    enter .aborted
    Action.note (.audit (.aborted t.operation.name t.identity t.realm error.code failedIn.name
      error.message))
    pure (t.aborted failedIn error)
  | .error failure => throw failure

end CredentialStore.Transaction
