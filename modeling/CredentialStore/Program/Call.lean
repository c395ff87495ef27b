import CredentialStore.Error.Failure
import CredentialStore.FileSystem.Basic
import CredentialStore.Log.Event

namespace CredentialStore

/-- A call and what it needs to know. -/
inductive Call
  /-- Creates the staging file where nothing lies. -/
  | createStaging (path : Text) (mode : Nat)
  /-- Makes a created file ready for writing. -/
  | openStream (staging : FileId)
  /-- Lets go of a created file that could not be made ready. -/
  | abandonStream (staging : FileId)
  /-- Adds octets to the staging file. -/
  | write (staging : FileId) (octets : Bytes)
  | flush (staging : FileId)
  | sync (staging : FileId)
  | closeStaging (staging : FileId)
  | openPrimary (path : Text)
  /-- Reads the line that begins at an offset, as far as it lies before another one. -/
  | fetchLine (primary : FileId) (start stop : Nat)
  | closePrimary (primary : FileId)
  | unlinkStaging (path : Text)
  | unlinkBackup (path : Text)
  | linkBackup (primary backup : Text)
  | copyBackup (primary backup : Text)
  /-- Puts the staging file in the place of the primary one. -/
  | install (staging primary : Text)
  /-- Takes the next answer of a script. -/
  | nextAnswer (prompt : Text)
  /-- Reads an answer from the terminal without showing it. -/
  | readTerminal (prompt : Text)
  | log (event : Log.Event)
  /-- Gives the log a new transaction to file its entries under. -/
  | beginTransaction
  | setUpLog (options : Log.Options)
  deriving DecidableEq, Repr

/-- A file that was opened for reading. -/
structure OpenedFile where
  id : FileId
  /-- How many octets it held when it was opened. -/
  size : Nat
  deriving DecidableEq, Repr

/-- What a call that succeeds gives back. -/
def Call.Reply : Call → Type
  | createStaging _ _ => FileId
  | openPrimary _ => OpenedFile
  | fetchLine _ _ _ => Bytes
  | nextAnswer _ => Option Text
  | readTerminal _ => Text
  | openStream _ | abandonStream _ | write _ _ | flush _ | sync _ | closeStaging _ => Unit
  | closePrimary _ | unlinkStaging _ | unlinkBackup _ | linkBackup _ _ | copyBackup _ _ => Unit
  | install _ _ | log _ | beginTransaction | setUpLog _ => Unit

/-- The answer to a call: its reply, or why it failed. -/
abbrev Call.Answer (c : Call) : Type := Except Failure c.Reply

end CredentialStore
