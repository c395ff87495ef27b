import CredentialStore.CommandLine.Request
import CredentialStore.CommandLine.Usage
import CredentialStore.Settings.Reading
import CredentialStore.Transaction.Basic

namespace CredentialStore.CommandLine

/-- The ways in which the command ends. -/
inductive Ending
  /-- A standard stream was not open, which may be an attempt to mislead the command. -/
  | streamClosed
  | interrupted (why : Interruption)
  /-- The settings break rules. -/
  | refused (problems : List (Settings.Field × Settings.Problem))
  /-- The transaction was run. -/
  | reported (report : Transaction.Report)
  deriving DecidableEq, Repr

namespace Ending

/-- The exit status. Closed streams have one of their own. -/
def exitStatus : Ending → Nat
  | streamClosed => 2
  | interrupted .help => 0
  | interrupted (.misuse _) => 1
  | refused _ => 1
  | reported report => report.exitStatus

/-- What is printed on the standard output. -/
def output : Ending → Text
  | interrupted .help => Usage.help
  | _ => []

/-- A line that the name of the command begins. -/
def complaint (t : Text) : Text := Usage.command ++ text ": " ++ t ++ Usage.lineFeed

/-- A count of rules that are broken. -/
def count (n : Nat) : Text :=
  Text.decimal n ++ (if n = 1 then text " validation error" else text " validation errors")

/-- What is said of a report: why the transaction failed, the rule that was broken, and, once the
    store was held, that it is as before. -/
def ofReport (report : Transaction.Report) : Text :=
  match report.error with
  | none => []
  | some error =>
    complaint error.message ++
    (match error.hint? with
      | some (c :: rest) => c :: rest ++ Usage.lineFeed
      | _ => []) ++
    (match report.failedIn with
      | none | some .start => []
      | some _ => complaint (text "Password file not updated."))

/-- What is printed on the standard error stream. -/
def errors : Ending → Text
  | streamClosed => []
  | interrupted .help => []
  | interrupted (.misuse m) => Usage.line ++ complaint m.message
  | refused problems =>
    complaint (text "invalid configuration: " ++ count problems.length ++ text " for Context")
  | reported report => ofReport report

end Ending

end CredentialStore.CommandLine
