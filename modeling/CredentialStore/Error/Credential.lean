import CredentialStore.Error.System
import CredentialStore.Text.Quoted

namespace CredentialStore

/-- What lies behind a failure of the store's files. -/
inductive StoreFault
  /-- A file-system call reported an error. -/
  | system (error : SystemError)
  /-- Something else, known by its description alone. -/
  | other (description : Text)
  deriving DecidableEq, Repr

def StoreFault.description : StoreFault → Text
  | system error => error.description
  | other description => description

/-- The causes that make a transaction fail. -/
inductive CredentialError
  /-- A failure that no other cause describes. -/
  | unclassified (notice : Text)
  /-- The caller may not do this to this account. -/
  | permissionDenied (notice : Text)
  /-- A field or a secret breaks a rule; the hint states the rule. -/
  | validationFailed (reason : Text) (hint : Option Text)
  /-- The old secret does not digest to the stored token. -/
  | mismatch (notice : Text)
  /-- No record of the store is for this identity and realm. -/
  | notFound (identity realm : Text)
  /-- Another transaction holds the staging file. -/
  | busy (staging : Text)
  /-- A file of the store could not be read, written or moved. -/
  | storeFailure (action : Text) (fault : Option StoreFault)
  /-- No secret was supplied at a prompt. -/
  | noSecret (prompt : Text)
  deriving DecidableEq, Repr

namespace CredentialError

/-- The refusal of an update that only a privileged caller may make. -/
def refused : CredentialError := permissionDenied (text "Only root can add or delete passwords.")

def wrongSecret : CredentialError := mismatch (text "Sorry, password doesn't match.")

/-- A rule is broken and no hint is given. -/
def invalid (reason : Text) : CredentialError := validationFailed reason none

/-- An action on a file failed with an error of the file system. -/
def onFile (action : Text) (error : SystemError) : CredentialError :=
  storeFailure action (some (.system error))

def message : CredentialError → Text
  | unclassified notice => notice
  | permissionDenied notice => notice
  | validationFailed reason _ => text "Validation failed: " ++ reason
  | mismatch notice => notice
  | notFound identity realm =>
    text "user \"" ++ identity ++ text "\" and group \"" ++ realm ++ text "\" do not exist."
  | busy _ => text "Password file busy."
  | storeFailure action none => action
  | storeFailure action (some fault) => action ++ text ": " ++ fault.description
  | noSecret prompt =>
    text "No password supplied for prompt " ++ prompt.quoted ++ text "."

/-- The code of a cause in the audit log. -/
def code : CredentialError → Text
  | unclassified _ => text "ERROR"
  | permissionDenied _ => text "PERMISSION_DENIED"
  | validationFailed _ _ => text "VALIDATION_FAILED"
  | mismatch _ => text "MISMATCH"
  | notFound _ _ => text "NOT_FOUND"
  | busy _ => text "BUSY"
  | storeFailure _ _ => text "IO_ERROR"
  | noSecret _ => text "NO_SECRET"

/-- The rule that was broken, where the user is told it on a line of its own. -/
def hint? : CredentialError → Option Text
  | validationFailed _ hint => hint
  | _ => none

/-- Every failed transaction ends a command with this status. -/
def exitStatus (_ : CredentialError) : Nat := 1

end CredentialError

end CredentialStore
