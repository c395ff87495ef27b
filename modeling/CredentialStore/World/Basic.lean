import CredentialStore.FileSystem.Calls
import CredentialStore.Log.TransactionId
import CredentialStore.Program.Action
import CredentialStore.World.Fault

namespace CredentialStore

/-- An entry of the log and the transaction it is filed under. -/
structure LogEntry where
  transaction : Text
  event : Log.Event
  deriving DecidableEq, Repr

structure World where
  files : FileSystem
  /-- The level from which entries are kept; without one none are. -/
  threshold : Option Log.Level := none
  /-- Entries that were kept, in order. -/
  entries : List LogEntry := []
  /-- The transaction that entries are filed under. -/
  transaction : Text := []
  /-- How many names of transactions were drawn. -/
  drawn : Nat := 0
  /-- How the log was set up, each time that it was. -/
  setUps : List Log.Options := []
  deriving DecidableEq, Repr

/-- What happens at a prompt of the terminal. -/
inductive Typed
  | answer (t : Text)
  | failure (f : Failure)
  deriving DecidableEq, Repr

structure Session where
  /-- The script of answers; there may be none at a prompt. -/
  script : List (Option Text) := []
  /-- What is typed at the terminal; after it the input ends. -/
  typed : List Typed := []
  /-- The prompts that were shown, in order. -/
  prompts : List Text := []
  faults : FaultPlan := []
  deriving DecidableEq, Repr

/-- A world as one program meets it. -/
structure Scene where
  world : World
  session : Session
  deriving DecidableEq, Repr

namespace World

/-- Adds an entry to the log if its level is kept. -/
def record (w : World) (event : Log.Event) : World :=
  match w.threshold with
  | none => w
  | some level =>
    if level ≤ event.level then { w with entries := w.entries ++ [⟨w.transaction, event⟩] } else w

/-- Files later entries under a new transaction. -/
def beginTransaction (w : World) : World :=
  { w with transaction := Log.TransactionId.fresh w.drawn, drawn := w.drawn + 1 }

/-- Changes the files by a call that may fail. -/
def changing (w : World) (call : Except Failure FileSystem) : Except Failure Unit × World :=
  match call with
  | .ok files => (.ok (), { w with files })
  | .error failure => (.error failure, w)

/-- What a call on the files or the log does when no fault strikes it and the log is kept in no file: what is
    logged adds to a file only where `Scene.Serves` says so. Prompts are not answered by the world. -/
def answer (w : World) : (c : Call) → c.Answer × World
  | .createStaging path mode =>
    match w.files.create path mode with
    | .ok (id, files) => (.ok id, { w with files })
    | .error failure => (.error failure, w)
  | .openStream _ => (.ok (), w)
  | .abandonStream _ => (.ok (), w)
  | .write id octets => (.ok (), { w with files := w.files.append id octets })
  | .flush _ => (.ok (), w)
  | .sync _ => (.ok (), w)
  | .closeStaging _ => (.ok (), w)
  | .openPrimary path =>
    match w.files.openFile path with
    | .ok id => (.ok ⟨id, (w.files.dataOf id).length⟩, w)
    | .error failure => (.error failure, w)
  | .fetchLine id start stop => (.ok (w.files.lineAt id start stop), w)
  | .closePrimary _ => (.ok (), w)
  | .unlinkStaging path => w.changing (w.files.unlink path)
  | .unlinkBackup path => w.changing (w.files.unlink path)
  | .linkBackup primary backup => w.changing (w.files.link primary backup)
  | .copyBackup primary backup => w.changing (w.files.copy primary backup)
  | .install staging primary => w.changing (w.files.rename staging primary)
  | .nextAnswer _ => (.ok none, w)
  | .readTerminal _ => (.error .endOfInput, w)
  | .log event => (.ok (), w.record event)
  | .beginTransaction => (.ok (), w.beginTransaction)
  | .setUpLog options =>
    match Log.Setup.configure options with
    | .ok _ => (.ok (), { w with setUps := w.setUps ++ [options] })
    | .error problem => (.error (.level problem), w)

end World

namespace Session

/-- Takes the next answer of the script; at its end there is none. -/
def nextAnswer (s : Session) (prompt : Text) : Option Text × Session :=
  (s.script.head?.join, { s with script := s.script.tail, prompts := s.prompts ++ [prompt] })

/-- Takes what is typed next; at its end the input ends. -/
def readTerminal (s : Session) (prompt : Text) : Except Failure Text × Session :=
  let s' := { s with typed := s.typed.tail, prompts := s.prompts ++ [prompt] }
  match s.typed with
  | [] => (.error .endOfInput, s')
  | .answer t :: _ => (.ok t, s')
  | .failure f :: _ => (.error f, s')

/-- The fault that strikes a call, if any. -/
def meet (s : Session) (c : Call) : Option Failure × Session :=
  match c.faultPoint? with
  | none => (none, s)
  | some point =>
    let (struck, faults) := s.faults.meet point
    (struck, { s with faults })

end Session

namespace Scene

/-- The effect of a call that no fault strikes. -/
def perform (c : Call) (s : Scene) : c.Answer × Scene :=
  match c with
  | .nextAnswer prompt =>
    let (answer, session) := s.session.nextAnswer prompt
    (.ok answer, { s with session })
  | .readTerminal prompt =>
    let (answer, session) := s.session.readTerminal prompt
    (answer, { s with session })
  | c =>
    let (answer, world) := s.world.answer c
    (answer, { s with world })

/-- Answers a call: a fault strikes it, or it has its effect. -/
def answer (c : Call) : StateM Scene c.Answer := fun s =>
  let (struck, session) := s.session.meet c
  match struck with
  | some failure => (.error failure, { s with session })
  | none => perform c { s with session }

/-- Runs an action of a program in its scene. -/
def run {σ α : Type} (s : Scene) (state : σ) (action : Action σ α) :
    (Except Failure α × σ) × Scene :=
  Id.run (StateT.run (Program.run answer (action state)) s)

end Scene

end CredentialStore
