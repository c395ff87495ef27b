import CredentialStore.Log.Event
import CredentialStore.Log.Line
import CredentialStore.Log.Setup

namespace CredentialStore.Log

/-- The line of an entry at a time and in a transaction. -/
def Event.line (event : Event) (seconds : Int) (transaction : Text) : Line where
  seconds
  level := event.level
  logger := event.logger
  message := event.message
  file := []
  function := none
  number := 0
  transaction
  exception := none
  extra := (event.fields? transaction).getD []

/-- A line as a handler of a format writes it. -/
def Format.render : Format → Line → Except Line.Problem Text
  | structured, line => line.render
  | plain, line => line.renderPlain

namespace Setup

/-- Whether entries of a level are kept. -/
def keeps (setup : Setup) (level : Level) : Bool := setup.level ≤ level

/-- The handlers that write a line, each with what it writes. -/
def written (setup : Setup) (line : Line) : List (Handler × Text) :=
  if setup.keeps line.level then
    setup.handlers.filterMap fun handler =>
      match handler with
      | .standardError format | .file format => (format.render line).toOption.map (handler, ·)
      | .silent => none
  else []

end Setup

end CredentialStore.Log
