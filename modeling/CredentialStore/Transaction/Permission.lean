import CredentialStore.Program.Action
import CredentialStore.Transaction.Basic

namespace CredentialStore

/-- Whether a caller may do an operation to the record of an identity. -/
def Settings.permits (s : Settings) (operation : Operation) (identity : Text) : Bool :=
  s.privileged || (operation == .change && identity == s.user)

namespace Transaction

/-- The event that is logged when an update is refused. -/
def refusal (s : Settings) (operation : Operation) (identity : Text) : Log.AuditEvent :=
  .security (text "unprivileged_update_refused") (text "medium")
    [(text "caller", .string s.user), (text "operation", .string operation.name),
      (text "identity", .string identity)]

/-- Refuses what the caller may not do, and logs that it was tried. -/
def checkPermission {σ : Type} (s : Settings) (operation : Operation) (identity : Text) :
    Action σ Unit := do
  if !s.permits operation identity then
    Action.note (.audit (refusal s operation identity))
    Action.refuse .refused

end Transaction

end CredentialStore
