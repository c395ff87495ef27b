import CredentialStore.Program.Action
import CredentialStore.Record.Basic

namespace CredentialStore

/-- Which record is left out on the way from one file to another. -/
structure Rewrite where
  primary : Text
  staging : Text
  identity : Text
  realm : Text
  /-- The permissions of the staging file. -/
  mode : Nat
  deriving DecidableEq, Repr

structure Rewrite.State where
  /-- The staging file while it is open for writing. -/
  stream : Option FileId := none
  /-- Whether this rewrite created the staging file and still has to remove or hand it over. -/
  owned : Bool := false
  /-- Whether the last octet written so far ends no line. -/
  needsNewline : Bool := false
  deriving DecidableEq, Repr

/-- What was seen while the lines were copied. -/
structure Rewrite.Summary where
  matched : Option Record := none
  storeExists : Bool := true
  copied : Nat := 0
  dropped : Nat := 0
  deriving DecidableEq, Repr

inductive Rewrite.Fate
  | copied
  | dropped
  | matched (record : Record)
  deriving DecidableEq, Repr

namespace Rewrite

/-- The octet that ends a line. -/
def lineFeed : UInt8 := 0x0A

def cannotOpen (e : SystemError) : Failure :=
  .credential (.onFile (text "Unable to open password file") e)

/-- The primary file could not be read. -/
def cannotRead (e : SystemError) : Failure :=
  .credential (.onFile (text "Unable to read password file") e)

/-- The staging file could not be written. -/
def cannotWrite (e : SystemError) : Failure :=
  .credential (.onFile (text "Unable to write to password file") e)

/-- Closes the staging file that is given up; that this may fail is only noted. -/
def closeGivenUp (r : Rewrite) (file : FileId) : Action State Unit :=
  (Action.ask (.closeStaging file)).onSystemError fun _ => Action.note (.closeFailed r.staging)

/-- Gives up: closes the staging file and removes it if this rewrite created it. -/
def discard (r : Rewrite) : Action State Unit := do
  match (← get).stream with
  | none => pure ()
  | some file =>
    modify fun s => { s with stream := none }
    r.closeGivenUp file
  if (← get).owned then
    modify fun s => { s with owned := false }
    Action.onSystemError (Action.ask (.unlinkStaging r.staging)) fun
      | .numbered .notFound => pure ()
      | _ => Action.note (.removeFailed .merging r.staging)

/-- Makes a created staging file ready for writing, or removes it again. -/
def openStream (r : Rewrite) (file : FileId) : Action State Unit :=
  Action.onSystemError
    (do
      Action.ask (.openStream file)
      modify fun s => { s with stream := some file })
    fun e => do
      Action.ask (.abandonStream file)
      r.discard
      throw (cannotOpen e)

/-- Creates the staging file. If there is one already, someone else holds the store. -/
def acquire (r : Rewrite) : Action State Unit := do
  let file ← (Action.ask (.createStaging r.staging r.mode)).onSystemError fun
    | .numbered .alreadyExists => Action.refuse (.busy r.staging)
    | e => throw (cannotOpen e)
  modify fun s => { s with owned := true }
  r.openStream file

/-- Writes octets to the staging file, which has to be open. -/
def write (octets : Bytes) : Action State Unit := do
  match (← get).stream with
  | none => throw .streamNotOpen
  | some file =>
    (Action.ask (.write file octets)).onSystemError fun e => throw (cannotWrite e)
    match octets.getLast? with
    | none => pure ()
    | some last => modify fun s => { s with needsNewline := last ≠ lineFeed }

/-- What becomes of a line: once the record is found, every line is copied without being read. -/
def fate (r : Rewrite) (found : Option Record) (line : Bytes) : Fate :=
  match found with
  | some _ => .copied
  | none =>
    match Record.parse line with
    | none => .dropped
    | some record => if record.isFor r.identity r.realm then .matched record else .copied

/-- Deals with one line, which has a number for the log. -/
def handleLine (r : Rewrite) (number : Nat) (seen : Summary) (line : Bytes) : Action State Summary :=
  match r.fate seen.matched line with
  | .copied => do
    write line
    pure { seen with copied := seen.copied + 1 }
  | .dropped => do
    Action.note (.audit (.malformedRecord r.primary (.integer number)))
    pure { seen with dropped := seen.dropped + 1 }
  | .matched record => pure { seen with matched := some record }

/-- Deals with the lines from an offset on, as far as the file reached when it was opened. At most `limit`
    lines are fetched. -/
def handleLines (r : Rewrite) (opened : OpenedFile) : (limit offset number : Nat) → Summary →
    Action State Summary
  | 0, _, _, seen => pure seen
  | limit + 1, offset, number, seen => do
    let line : Bytes ← Action.ask (.fetchLine opened.id offset opened.size)
    if line.isEmpty then pure seen
    else
      let seen ← r.handleLine number seen line
      r.handleLines opened limit (offset + line.length) (number + 1) seen

/-- Opens the primary file, if there is one. -/
def openPrimary (r : Rewrite) : Action State (Option OpenedFile) :=
  Action.onSystemError
    (do
      let opened ← Action.ask (.openPrimary r.primary)
      pure (some opened))
    fun
      | .numbered .notFound => pure none
      | e => throw (cannotOpen e)

/-- Copies the lines of an opened primary file. Every line has an octet, so that the lines and the end
    of the file are reached after one more fetch than the file had octets when it was opened. What is
    added to the file while it is copied is not read. -/
def copyLines (r : Rewrite) (opened : OpenedFile) : Action State Summary :=
  Action.thenAlways
    ((r.handleLines opened (opened.size + 1) 0 1 {}).onSystemError fun e => throw (cannotRead e))
    (Action.ask (.closePrimary opened.id))

/-- Copies the primary file to the staging file, which has to be open. -/
def merge (r : Rewrite) : Action State Summary := do
  if (← get).stream.isNone then
    throw (.unexpected (text "merge() called before acquire()"))
  match ← r.openPrimary with
  | none => pure { storeExists := false }
  | some opened =>
    let seen ← r.copyLines opened
    Action.note (.merged r.primary seen.copied seen.dropped seen.matched.isSome)
    pure seen

/-- Adds a record after the copied lines, on a line of its own. -/
def append (record : Record) : Action State Unit := do
  if (← get).needsNewline then
    write [lineFeed]
  match record.toLine? with
  | none => throw .unencodable
  | some line => write line

/-- Closes the staging file with everything written; it stays where it is. -/
def close (r : Rewrite) : Action State Unit := do
  match (← get).stream with
  | none => pure ()
  | some file =>
    modify fun s => { s with stream := none }
    Action.onSystemError
      (do
        Action.ask (.flush file)
        Action.ask (.sync file))
      fun e => do
        r.closeGivenUp file
        throw (cannotWrite e)
    (Action.ask (.closeStaging file)).onSystemError fun e => throw (cannotWrite e)

/-- Hands the staging file over; from now on a discard does not remove it. -/
def release : Action State Unit := modify fun s => { s with owned := false }

end Rewrite

end CredentialStore
