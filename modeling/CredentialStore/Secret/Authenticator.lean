import CredentialStore.Record.Basic
import CredentialStore.Secret.Prompt

namespace CredentialStore

/-- Holds the old secret between the prompt and the comparison. -/
structure Authenticator where
  /-- The realm of every message, if it is not the realm of the record. -/
  realm : Option Text
  old : Option Secret := none
  deriving DecidableEq, Repr

namespace Authenticator

def acquire {σ : Type} (a : Authenticator) (source : SecretSource) : Action σ Authenticator := do
  let secret ← Prompt.secret source Prompt.old
  pure { a with old := some secret }

def wipe (a : Authenticator) : Authenticator := { a with old := none }

/-- Compares the old secret with the token of a record. -/
def verify (a : Authenticator) (record : Record) : Except Failure Unit :=
  match a.old with
  | none => throw (.unexpected (text "verify() called before acquire()"))
  | some old =>
    match Token.of? record.identity (a.realm.getD record.realm) old.octets with
    | none => throw .unencodable
    | some computed =>
      match Token.same? (.text computed) (.text record.token) with
      | none => throw .unencodable
      | some same => if same then pure () else throw (.credential .wrongSecret)

end Authenticator

end CredentialStore
