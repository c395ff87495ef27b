import CredentialStore.FileSystem.Arrange
import CredentialStore.Scenario.Step
import CredentialStore.Store.Commit
import CredentialStore.Transaction.Run

namespace CredentialStore.Scenario

structure Party where
  rewrite : Rewrite
  state : Rewrite.State
  deriving DecidableEq, Repr

/-- The world and the parties in it. -/
structure Stage where
  world : World
  serverRoot : Text
  parties : List (Text × Party) := []
  /-- How many transactions were begun; each has the count before it as its number. -/
  begun : Nat := 0
  /-- By the number of a transaction that is under way, what is reported of the steps that waited for
      the store to be read. -/
  taken : List (Nat × List StepReport) := []

namespace Stage

def paths (s : Stage) : StorePaths := .locate s.serverRoot

def arrange (s : Stage) (change : FileSystem.Arrangement Unit) : Except Obstacle Result × Stage :=
  let (outcome, files) := Id.run (change.run.run s.world.files)
  let result := match outcome with
    | .ok () => .ok .nothing
    | .error failure => .error (.failure failure)
  (result, { s with world := { s.world with files } })

def withParty (s : Stage) (name : Text) (party : Party) : Stage :=
  { s with parties := (name, party) :: s.parties.filter fun p => p.1 ≠ name }

/-- Takes the entries of the log that were not taken before. -/
def takeEntries (s : Stage) : List LogEntry × Stage :=
  (s.world.entries, { s with world := { s.world with entries := [] } })

/-- Sets what is reported of the steps that waited under a number. -/
def setTaken (s : Stage) (number : Nat) (reports : List StepReport) : Stage :=
  { s with taken := (number, reports) :: s.taken.filter fun t => t.1 ≠ number }

/-- Takes what is reported of the steps that waited under a number; none if they were not taken. -/
def collectTaken (s : Stage) (number : Nat) : Option (List StepReport) × Stage :=
  (s.taken.lookup number, { s with taken := s.taken.filter fun t => t.1 ≠ number })

end Stage

/-- Steps of others, as a change of the stage that is reported. -/
abbrev Interruption := Stage → List StepReport × Stage

/-- Steps that wait for the store to be read, by the numbers of the transactions that they belong to,
    the latest first. -/
abbrev Waiting := List (Nat × Interruption)

/-- Someone is about to read the store: all steps that wait for this are taken, once. -/
def letOthers (waiting : Waiting) (s : Stage) : Stage :=
  waiting.foldl
    (fun s w =>
      match s.taken.lookup w.1 with
      | some _ => s
      | none =>
        let (reports, s) := w.2 (s.setTaken w.1 [])
        s.setTaken w.1 reports)
    s

def Move.action (r : Rewrite) : Move → Action Rewrite.State Result
  | acquire => do r.acquire; pure .nothing
  | merge => .merged <$> r.merge
  | append record => do Rewrite.append record; pure .nothing
  | close => do r.close; pure .nothing
  | discard => do r.discard; pure .nothing
  | release => do Rewrite.release; pure .nothing

/-- The action of a part of the commit; a backup is judged by the files afterwards. -/
def CommitMove.action (paths : StorePaths) : CommitMove → Action Unit Result
  | commit => do Commit.commit paths; pure .nothing
  | removeBackup => do Commit.removeBackup paths; pure .nothing
  | backUpPrimary => do
    let made ← Commit.backUpPrimary paths
    pure (.backedUp made false)
  | installStaging => do Commit.installStaging paths; pure .nothing
  | discardStaging => do Commit.discard paths.staging; pure .nothing

/-- Whether two paths lead to one file. -/
def isOneFile (fs : FileSystem) (a b : Text) : Bool :=
  match fs.fileId? a, fs.fileId? b with
  | some x, some y => x == y
  | _, _ => false

/-- Says of a backup that was made whether it is a link. -/
def judged (paths : StorePaths) (fs : FileSystem) : Result → Result
  | .backedUp made _ => .backedUp made (made && isOneFile fs paths.primary paths.backup)
  | result => result

/-- The outcome of an action as that of a step. -/
def outcomeOf (judge : Result → Result) : Except Failure Result → Except Obstacle Result
  | .ok result => .ok (judge result)
  | .error failure => .error (.failure failure)

/-- A party makes a move. One that never joined makes none, and nobody else takes a step then. -/
def takeMove (s : Stage) (waiting : Waiting) (name : Text) (move : Move) (faults : FaultPlan) :
    Except Obstacle Result × Stage :=
  let others := if move = .merge ∧ (s.parties.lookup name).isSome then letOthers waiting s else s
  match others.parties.lookup name with
  | none => (.error .unknownParty, others)
  | some party =>
    let ((outcome, state), scene) :=
      Scene.run ⟨others.world, { faults }⟩ party.state (move.action party.rewrite)
    (outcomeOf id outcome, { others with world := scene.world }.withParty name { party with state })

/-- Someone does a part of the commit. -/
def takeCommitMove (s : Stage) (move : CommitMove) (faults : FaultPlan) :
    Except Obstacle Result × Stage :=
  let ((outcome, ()), scene) := Scene.run ⟨s.world, { faults }⟩ () (move.action s.paths)
  (outcomeOf (judged s.paths scene.world.files) outcome, { s with world := scene.world })

/-- Looks which files of the store exist. -/
def inspect (s : Stage) : Except Failure Inspection := do
  let fs := s.world.files
  let exists? (path : Text) : Except Failure Bool := Option.isSome <$> fs.probe path
  pure
    { serverRoot := (← fs.probe s.serverRoot) = some .directory
      primary := ← exists? s.paths.primary
      backup := ← exists? s.paths.backup
      staging := ← exists? s.paths.staging }

/-- A transaction under way, and the steps of others that are still to come. -/
structure Play where
  stage : Stage
  session : Session
  waiting : Waiting
  prompt : Nat
  atPrompt : Option Interruption
  reportedPrompt : Option (List StepReport) := none

namespace Play

/-- Lets others take their steps when the prompt of the agreed number is reached, once. -/
def interruptPrompt (p : Play) : Play :=
  if p.session.prompts.length ≠ p.prompt then p
  else match p.atPrompt with
  | none => p
  | some interruption =>
    let (reports, stage) := interruption p.stage
    { p with stage, atPrompt := none, reportedPrompt := some reports }

/-- Lets others take the steps that belong before a call. -/
def interrupt (p : Play) : Call → Play
  | .openPrimary _ => { p with stage := letOthers p.waiting p.stage }
  | .nextAnswer _ | .readTerminal _ => p.interruptPrompt
  | _ => p

/-- Answers a call, after the steps of others that belong before it. -/
def answer (c : Call) : StateM Play c.Answer := fun p =>
  let p := p.interrupt c
  let (answer, scene) := Scene.answer c ⟨p.stage.world, p.session⟩
  (answer, { p with stage := { p.stage with world := scene.world }, session := scene.session })

/-- Runs a transaction in the manner that is wanted. -/
def run (p : Play) (t : Transaction) (manner : Manner) : Ending × Phase × Play :=
  let action : Action Transaction.Progress Ending :=
    match manner with
    | .execute | .call => .reported <$> t.execute
    | .run => .wrote <$> t.run
  let ((outcome, progress), p) := Id.run (StateT.run (Program.run answer (action {})) p)
  match outcome with
  | .ok ending => (ending, progress.phase, p)
  | .error failure => (.failed failure, progress.phase, p)

end Play

def plainReport (taken : Except Obstacle Result × Stage) (party : Option Text) : StepReport × Stage :=
  let owned := party.bind fun name =>
    (taken.2.parties.lookup name).map fun p => p.state.owned
  let (entries, stage) := taken.2.takeEntries
  ({ result := taken.1, files := stage.world.files, owned, entries
     beforeReading := none, atPrompt := none }, stage)

/-- Makes a transaction, if its settings and its operation are valid. -/
def transact (s : Stage) (waiting : Waiting) (plan : Plan)
    (beforeReading : Option (Waiting → Interruption)) (prompt : Nat)
    (atPrompt : Option (Waiting → Interruption)) : StepReport × Stage :=
  match Settings.read plan.settings with
  | .error problems => plainReport (.error (.badSettings problems), s) none
  | .ok settings =>
    match plan.operation? with
    | none => plainReport (.error .unknownOperation, s) none
    | some operation =>
      let t := Transaction.of settings operation plan.identity plan.realm plan.source
      let number := s.begun
      let own := (beforeReading.map fun interruption => (number, interruption waiting)).toList
      let played : Play :=
        { stage := { s with begun := number + 1 }
          session := plan.session
          waiting := own ++ waiting
          prompt
          atPrompt := atPrompt.map fun interruption => interruption (own ++ waiting) }
      let (ending, phase, played) := played.run t plan.manner
      let (beforeReading, stage) := played.stage.collectTaken number
      let (report, stage) :=
        plainReport (.ok (.transacted ending phase played.session.prompts), stage) none
      ({ report with beforeReading, atPrompt := played.reportedPrompt }, stage)

mutual

/-- Takes a step, while others wait for the store to be read. -/
def take : Step → Waiting → Stage → StepReport × Stage
  | .put path file, _, s => plainReport (s.arrange (.put path file)) none
  | .makeDirectory path, _, s => plainReport (s.arrange (.makeDirectory path)) none
  | .remove path, _, s => plainReport (s.arrange (.remove path)) none
  | .join name identity realm mode, _, s =>
    let rewrite : Rewrite :=
      { primary := s.paths.primary, staging := s.paths.staging, identity, realm, mode }
    plainReport (.ok .nothing, s.withParty name ⟨rewrite, {}⟩) (some name)
  | .move name move faults, waiting, s => plainReport (takeMove s waiting name move faults) (some name)
  | .commit move faults, _, s => plainReport (takeCommitMove s move faults) none
  | .inspect, _, s =>
    match inspect s with
    | .ok found => plainReport (.ok (.inspected found), s) none
    | .error failure => plainReport (.error (.failure failure), s) none
  | .transact plan beforeReading prompt atPrompt, waiting, s =>
    transact s waiting plan (interruption beforeReading) prompt (interruption atPrompt)

def takeAll : List Step → Waiting → Stage → List StepReport × Stage
  | [], _, s => ([], s)
  | step :: rest, waiting, s =>
    let (report, s) := take step waiting s
    let (reports, s) := takeAll rest waiting s
    (report :: reports, s)

/-- Steps of others, if there are any to be taken. -/
def interruption : Option (List Step) → Option (Waiting → Interruption)
  | none => none
  | some steps => some (takeAll steps)

end

def run (steps : List Step) (s : Stage) : List StepReport × Stage := takeAll steps [] s

end CredentialStore.Scenario
