import CredentialStore.CommandLine.Ending
import CredentialStore.Settings.Defaults
import CredentialStore.Transaction.Run

namespace CredentialStore.CommandLine

/-- A command line and what it is run with. -/
structure Invocation where
  words : List Text
  machine : Machine
  defaults : Defaults
  /-- Numbers of streams that are not open. -/
  closed : List Nat := []
  source : SecretSource := .terminal
  deriving DecidableEq, Repr

namespace Invocation

/-- The numbers of the standard input, output and error streams. -/
def standardStreams : List Nat := [0, 1, 2]

def streamsOpen (call : Invocation) : Bool := standardStreams.all fun n => !call.closed.contains n

def given (request : Request) : Settings.Source
  | .serverRoot => request.serverRoot.map Written.string
  | _ => none

def carryOut (call : Invocation) (request : Request) : Action Transaction.Progress Ending := do
  Action.ask (.setUpLog (call.defaults.logOptions call.machine))
  match call.defaults.settings call.machine (given request) with
  | .error problems => pure (.refused problems)
  | .ok settings =>
    let t := Transaction.of settings request.operation request.user request.group call.source
    Ending.reported <$> t.execute

/-- Runs the command. Nothing is asked of the surroundings before there is a request. -/
def run (call : Invocation) : Action Transaction.Progress Ending :=
  if !call.streamsOpen then pure .streamClosed
  else match Request.ofTexts call.words with
    | .error why => pure (.interrupted why)
    | .ok request => call.carryOut request

end Invocation

end CredentialStore.CommandLine
