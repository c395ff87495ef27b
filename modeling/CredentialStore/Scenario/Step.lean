import CredentialStore.Settings.Reading
import CredentialStore.Store.Rewrite
import CredentialStore.Transaction.Basic
import CredentialStore.World.Basic

namespace CredentialStore.Scenario

/-- A move in the rewrite of one party. -/
inductive Move
  | acquire
  | merge
  | append (record : Record)
  | close
  | discard
  | release
  deriving DecidableEq, Repr

/-- A part of the commit, done alone, or all of it. -/
inductive CommitMove
  | commit
  | removeBackup
  | backUpPrimary
  | installStaging
  | discardStaging
  deriving DecidableEq, Repr

inductive Manner
  /-- It reports how it ended. -/
  | execute
  /-- It reports how it ended; its operation is called by a name in letters of either case. -/
  | call
  /-- It fails where it cannot be committed. -/
  | run
  deriving DecidableEq, Repr

/-- A transaction that is to be made, as it is written down. -/
structure Plan where
  settings : Settings.Source
  operation : Text
  identity : Option Text
  realm : Option Text
  source : SecretSource
  session : Session
  manner : Manner

/-- The operation of a plan, if its name is one. -/
def Plan.operation? (plan : Plan) : Option Operation :=
  match plan.manner with
  | .call => Operation.ofCall? plan.operation
  | .execute | .run => Operation.ofName? plan.operation

inductive Step
  /-- Someone puts a file somewhere. -/
  | put (path : Text) (file : File)
  /-- Someone makes a directory. -/
  | makeDirectory (path : Text)
  /-- Someone removes a file or a tree. -/
  | remove (path : Text)
  /-- A party begins to rewrite the store. -/
  | join (party : Text) (identity realm : Text) (mode : Nat)
  /-- A party goes on with its rewrite. -/
  | move (party : Text) (move : Move) (faults : FaultPlan)
  | commit (move : CommitMove) (faults : FaultPlan)
  /-- Someone looks which files of the store exist. -/
  | inspect
  /-- A transaction is made; others take steps right before it reads the store, and when a prompt of it
      is about to be answered. -/
  | transact (plan : Plan) (beforeReading : Option (List Step)) (prompt : Nat)
      (atPrompt : Option (List Step))

structure Inspection where
  serverRoot : Bool
  primary : Bool
  backup : Bool
  staging : Bool
  deriving DecidableEq, Repr

inductive Ending
  | reported (report : Transaction.Report)
  | wrote (record : Option Record)
  | failed (failure : Failure)
  deriving DecidableEq, Repr

inductive Result
  | nothing
  | merged (seen : Rewrite.Summary)
  /-- Whether a backup was made, and whether it is the primary file under another name. -/
  | backedUp (made linked : Bool)
  | inspected (found : Inspection)
  | transacted (ending : Ending) (phase : Phase) (prompts : List Text)
  deriving DecidableEq, Repr

/-- Why a step was not taken or did not come to its end. -/
inductive Obstacle
  | failure (failure : Failure)
  | badSettings (problems : List (Settings.Field × Settings.Problem))
  | unknownOperation
  /-- The party of the step never joined. -/
  | unknownParty
  deriving DecidableEq, Repr

structure StepReport where
  result : Except Obstacle Result
  files : FileSystem
  /-- Whether the party of the step has to remove or hand over the staging file. -/
  owned : Option Bool
  /-- Entries of the log that were not reported before. -/
  entries : List LogEntry
  beforeReading : Option (List StepReport)
  atPrompt : Option (List StepReport)

end CredentialStore.Scenario
