import CredentialStore.CommandLine.Run
import CredentialStore.FileSystem.Calls
import CredentialStore.Log.Output
import CredentialStore.Log.TransactionId
import CredentialStore.Settings.Accounts
import Std.Time.DateTime.Timestamp

namespace CredentialStore.Terminal

/-- What the command holds while it runs. -/
structure Held where
  /-- The staging file that is open for writing. -/
  staging : Option IO.FS.Handle := none
  /-- What the primary file held when it was opened. -/
  primary : Bytes := []
  setup : Option Log.Setup := none
  /-- The file of the log, if it is kept in one. -/
  log : Option IO.FS.Handle := none
  transaction : Text := []

/-- The command between two of its calls. -/
abbrev Keeping := StateT Held IO

/-- The number of an error of the machine. -/
def errorNumber? : IO.Error → Option UInt32
  | .alreadyExists _ n _ | .invalidArgument _ n _ | .permissionDenied _ n _ => some n
  | .resourceExhausted _ n _ | .inappropriateType _ n _ | .noSuchThing _ n _ => some n
  | .interrupted _ n _ | .noFileOrDirectory _ n _ => some n
  | .otherError n _ | .resourceBusy n _ | .resourceVanished n _ | .unsupportedOperation n _ => some n
  | .hardwareFault n _ | .unsatisfiedConstraints n _ | .illegalOperation n _ => some n
  | .protocolError n _ | .timeExpired n _ => some n
  | .unexpectedEof | .userError _ => none

/-- A number without its sign: some errors come with a number that is negated. -/
def magnitude (n : UInt32) : Nat := if n.toNat < 0x80000000 then n.toNat else 0x100000000 - n.toNat

/-- The failure of an error of the machine. -/
def failureOf (e : IO.Error) : Failure :=
  match (errorNumber? e).bind fun n => Errno.ofNumber? (magnitude n) with
  | some errno => .numbered errno
  | none => .system (.unnumbered (text (toString e)))

def trying {α : Type} (act : IO α) : IO (Except Failure α) :=
  try Except.ok <$> act catch e => pure (.error (failureOf e))

/-- Does something with a path. A path that is no string cannot be passed on. -/
def atPath {α : Type} (path : Text) (act : String → IO α) : IO (Except Failure α) :=
  if path.contains 0 then pure (.error .nulInPath)
  else match path.toString? with
    | none => pure (.error .unencodable)
    | some path => trying (act path)

def packed (octets : Bytes) : ByteArray := ⟨octets.toArray⟩

def rightsOf (mode : Nat) : IO.FileRight :=
  let access (digit : Nat) : IO.AccessRight :=
    { read := digit / 4 % 2 = 1, write := digit / 2 % 2 = 1, execution := digit % 2 = 1 }
  { user := access (mode / 64), group := access (mode / 8), other := access mode }

/-- Creates a file where nothing lies and opens it for writing. -/
def createAt (path : Text) (mode : Nat) : Keeping (Except Failure FileId) := do
  match ← atPath path fun name => do
      let handle ← IO.FS.Handle.mk name .writeNew
      IO.setAccessRights name (rightsOf mode)
      pure handle with
  | .error failure => pure (.error failure)
  | .ok handle =>
    modify fun held => { held with staging := some handle }
    pure (.ok 0)

/-- Does something with the open staging file. -/
def withStaging (act : IO.FS.Handle → IO Unit) : Keeping (Except Failure Unit) := do
  match (← get).staging with
  | none => pure (.error (.numbered .badDescriptor))
  | some handle => trying (act handle)

def letGo : Keeping (Except Failure Unit) := do
  modify fun held => { held with staging := none }
  pure (.ok ())

def between (first second : Text) (act : String → String → IO Unit) : IO (Except Failure Unit) := do
  match ← atPath first pure with
  | .error failure => pure (.error failure)
  | .ok source => atPath second fun target => act source target

/-- A line without the line feed at its end. -/
def withoutLineFeed (line : Text) : Text :=
  if line.getLast? = some (CodePoint.ofChar '\n') then line.dropLast else line

/-- Asks at the terminal; what is typed is concealed. -/
def readConcealed (prompt : Text) : IO (Except Failure Text) := do
  let errors ← IO.getStderr
  errors.putStr (prompt.toString?.getD "" ++ "\x1b[8m")
  errors.flush
  let typed ← try Except.ok <$> (← IO.getStdin).getLine catch _ => pure (.error Failure.undecodable)
  errors.putStr "\x1b[28m\n"
  match typed with
  | .error failure => pure (.error failure)
  | .ok line => pure (if line.isEmpty then .error .endOfInput else .ok (withoutLineFeed (text line)))

/-- Writes text that may have no bytes in part. -/
def put (stream : IO.FS.Stream) (t : Text) : IO Unit := do
  stream.write (packed (t.toBytes?.getD (t.flatMap CodePoint.utf8)))
  stream.flush

/-- Sets up the log and opens its file, if it is kept in one. -/
def setUpLog (options : Log.Options) : Keeping (Except Failure Unit) := do
  match Log.Setup.configure options with
  | .error problem => pure (.error (.level problem))
  | .ok setup =>
    let path? := if options.keepsFile then options.file else none
    let opened ← path?.mapM fun path => atPath path fun name => IO.FS.Handle.mk name .append
    match opened with
    | some (.error failure) => pure (.error failure)
    | some (.ok handle) =>
      modify fun held => { held with setup := some setup, log := some handle }
      pure (.ok ())
    | none =>
      modify fun held => { held with setup := some setup }
      pure (.ok ())

/-- Writes an entry to the handlers of the log. One that cannot be written is lost. -/
def writeEntry (event : Log.Event) : Keeping Unit := do
  let held ← get
  match held.setup with
  | none => pure ()
  | some setup =>
    let now ← Std.Time.Timestamp.now
    for (handler, line) in setup.written (event.line now.toSecondsSinceUnixEpoch.val held.transaction) do
      match handler, held.log with
      | .standardError _, _ => put (← IO.getStderr) (line ++ text "\n")
      | .file _, some log =>
        let _ ← trying do
          log.write (packed ((line ++ text "\n").flatMap CodePoint.utf8))
          log.flush
      | _, _ => pure ()

def answer : (c : Call) → Keeping c.Answer
  | .createStaging path mode => createAt path mode
  | .openStream _ => pure (.ok ())
  | .abandonStream _ => letGo
  | .write _ octets => withStaging fun handle => handle.write (packed octets)
  | .flush _ => withStaging IO.FS.Handle.flush
  | .sync _ => withStaging IO.FS.Handle.flush
  | .closeStaging _ => letGo
  | .openPrimary path => do
    match ← atPath path fun name => IO.FS.readBinFile name with
    | .error failure => pure (.error failure)
    | .ok contents =>
      modify fun held => { held with primary := contents.toList }
      pure (.ok ⟨1, contents.size⟩)
  | .fetchLine _ start _ => do pure (.ok (FileSystem.firstLine ((← get).primary.drop start)))
  | .closePrimary _ => do
    modify fun held => { held with primary := [] }
    pure (.ok ())
  | .unlinkStaging path => atPath path fun name => IO.FS.removeFile name
  | .unlinkBackup path => atPath path fun name => IO.FS.removeFile name
  | .linkBackup primary backup => between primary backup fun a b => IO.FS.hardLink a b
  | .copyBackup primary backup => between primary backup fun a b => do
    IO.FS.writeBinFile b (← IO.FS.readBinFile a)
    IO.setAccessRights b (rightsOf 0o600)
  | .install staging primary => between staging primary fun a b => IO.FS.rename a b
  | .nextAnswer _ => pure (.ok none)
  | .readTerminal prompt => readConcealed prompt
  | .log event => do
    writeEntry event
    pure (.ok ())
  | .beginTransaction => do
    let drawn ← IO.getRandomBytes 16
    let number := drawn.toList.foldl (fun n b => 256 * n + b.toNat) 0
    modify fun held => { held with transaction := Log.TransactionId.fresh number }
    pure (.ok ())
  | .setUpLog options => setUpLog options

/-- The variables that the command looks at. -/
def consulted : List String :=
  ["CUPS_USER", "USER", "CUPS_SERVERROOT", "MD5PASSWD_DEBUG", "MD5PASSWD_DEFAULT_REALM",
    "MD5PASSWD_DIGEST_REALM", "MD5PASSWD_LOG_LEVEL", "MD5PASSWD_LOG_JSON", "MD5PASSWD_LOG_FILE",
    "MD5PASSWD_STAGING_MODE"]

/-- The text of a file of the system, empty where it cannot be read. -/
def systemText (name : String) : IO Text :=
  try (fun contents => Bytes.toText contents.toList) <$> IO.FS.readBinFile name
  catch _ => pure []

def machine : IO Machine := do
  let environment ← consulted.filterMapM fun name => do
    pure ((← IO.getEnv name).map fun value => (text name, text value))
  pure
    { environment
      uid := (Accounts.realUser? (← systemText "/proc/self/status")).getD 65534
      accounts := Accounts.accounts (← systemText "/etc/passwd")
      groups := Accounts.groups (← systemText "/etc/group") }

/-- The standard streams that are not open. -/
def closedStreams : IO (List Nat) :=
  CommandLine.Invocation.standardStreams.filterM fun n => do
    try
      let _ ← IO.FS.Handle.mk ("/proc/self/fd/" ++ toString n) .read
      pure false
    catch
      | .noFileOrDirectory .. => pure true
      | _ => pure false

end CredentialStore.Terminal

open CredentialStore in
/-- Runs the command with the words that follow its name. -/
def main (arguments : List String) : IO UInt32 := do
  let machine ← Terminal.machine
  let call : CommandLine.Invocation :=
    { words := arguments.map text, machine
      defaults := Defaults.ofEnvironment machine.environment
      closed := ← Terminal.closedStreams }
  let ((outcome, _), _) ← (Program.run Terminal.answer (call.run {})).run {}
  match outcome with
  | .ok ending =>
    Terminal.put (← IO.getStdout) ending.output
    Terminal.put (← IO.getStderr) ending.errors
    pure (UInt32.ofNat ending.exitStatus)
  | .error _ => pure 1
