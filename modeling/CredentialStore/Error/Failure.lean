import CredentialStore.Error.Credential
import CredentialStore.Log.Setup

namespace CredentialStore

inductive Failure
  /-- A transaction fails for a cause that its user is told. -/
  | credential (error : CredentialError)
  /-- A file-system call reports an error. -/
  | system (error : SystemError)
  /-- A text has no bytes. -/
  | unencodable
  /-- Input from the terminal is no text. -/
  | undecodable
  /-- A path holds the code point zero, which ends a path. -/
  | nulInPath
  /-- Something is written to a staging file that is not open. -/
  | streamNotOpen
  /-- The name of a log level is not known. -/
  | level (problem : Log.LevelProblem)
  /-- The user interrupts. -/
  | interrupted
  /-- The terminal has no more input. -/
  | endOfInput
  /-- Anything else, in particular an action taken out of order. -/
  | unexpected (notice : Text)
  deriving DecidableEq, Repr

namespace Failure

/-- A numbered error of the file system. -/
def numbered (errno : Errno) : Failure := system (.numbered errno)

end Failure

end CredentialStore
