import CredentialStore.Program.Basic

namespace CredentialStore

/-- A program on a state that ends in a value or in a failure. What it did to its state before it failed stays
    done, so that whoever meets the failure can clean up. -/
abbrev Action (σ : Type) : Type → Type := ExceptT Failure (StateT σ Program)

namespace Action

variable {σ τ α : Type}

/-- Makes one call; its failure is the failure of the action. -/
def ask (c : Call) : Action σ c.Reply := fun s => .call c fun answer => .done (answer, s)

def note (event : Log.Event) : Action σ Unit := ask (.log event)

/-- Fails with an error of the credential store. -/
def refuse (error : CredentialError) : Action σ α := throw (.credential error)

/-- Fails, or goes on with a value. -/
def ofExcept : Except CredentialError α → Action σ α
  | .ok value => pure value
  | .error error => refuse error

/-- Does an action and gives its outcome; this does not fail. -/
def attempt (action : Action σ α) : Action σ (Except Failure α) := fun s => do
  let (outcome, s) ← action s
  pure (.ok outcome, s)

/-- Does an action and meets an error of the file system; any other failure passes. -/
def onSystemError (action : Action σ α) (handler : SystemError → Action σ α) : Action σ α := do
  match ← attempt action with
  | .ok value => pure value
  | .error (.system error) => handler error
  | .error failure => throw failure

/-- Does an action and, if it fails, cleans up before the failure passes. -/
def orCleanUp (action : Action σ α) (cleanUp : Action σ Unit) : Action σ α := do
  match ← attempt action with
  | .ok value => pure value
  | .error failure => cleanUp; throw failure

/-- Does an action and then another one, whether or not the first fails. -/
def thenAlways (action : Action σ α) (last : Action σ Unit) : Action σ α := do
  match ← attempt action with
  | .ok value => last; pure value
  | .error failure => last; throw failure

/-- Does an action on a part of the state. -/
def onPart (part : σ → τ) (replace : σ → τ → σ) (action : Action τ α) : Action σ α := fun s => do
  let (outcome, t) ← action (part s)
  pure (outcome, replace s t)

end Action

end CredentialStore
