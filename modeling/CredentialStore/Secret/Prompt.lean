import CredentialStore.Policy
import CredentialStore.Program.Action
import CredentialStore.Secret.Basic

namespace CredentialStore

/-- Where the answers to prompts come from. -/
inductive SecretSource
  /-- Answers fixed in advance. -/
  | script
  /-- Answers typed at the terminal and not shown. -/
  | terminal
  deriving DecidableEq, Repr

namespace Prompt

/-- The prompt for the secret that is to be replaced. -/
def old : Text := text "Enter old password:"

def new : Text := text "Enter password:"

/-- The prompt for a new secret once more. -/
def confirmation : Text := text "Enter password again:"

variable {σ : Type}

/-- Asks for an answer; an interrupt, the end of the input and input that is no text are no answer. -/
def answer : SecretSource → Text → Action σ (Option Text)
  | .script, prompt => Action.ask (.nextAnswer prompt)
  | .terminal, prompt => do
    match ← Action.attempt (Action.ask (.readTerminal (prompt ++ text " "))) with
    | .ok entered => pure (some entered)
    | .error .endOfInput | .error .interrupted => Action.note .promptAborted; pure none
    | .error .undecodable | .error .unencodable => Action.note .promptUndecodable; pure none
    | .error failure => throw failure

/-- Asks for a secret, which has to be there and to have bytes. -/
def secret (source : SecretSource) (prompt : Text) : Action σ Secret := do
  match ← answer source prompt with
  | none => Action.refuse (.noSecret prompt)
  | some entered =>
    match Secret.ofText? entered with
    | none => Action.refuse (.invalid (text "password is not valid text"))
    | some secret => pure secret

/-- Asks twice for a new secret of an identity. Both answers have to be the same and to keep the rules
    for secrets. -/
def newSecret (source : SecretSource) (identity : Text) : Action σ Secret := do
  let secret ← Prompt.secret source new
  let again ← Prompt.secret source confirmation
  if secret ≠ again then
    Action.refuse (.invalid (text "passwords don't match"))
  match Policy.check? (.bytes secret.octets) identity with
  | none => throw .unencodable
  | some verdict =>
    match verdict.error? with
    | some error => Action.refuse error
    | none => pure secret

end Prompt

end CredentialStore
