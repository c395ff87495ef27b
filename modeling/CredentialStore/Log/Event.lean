import CredentialStore.Log.Audit

namespace CredentialStore.Log

/-- The parts of the work that write notes. -/
inductive Part
  | merging
  | committing
  | prompting
  | transaction
  deriving DecidableEq, Repr

def Part.logger : Part → Text
  | merging => text "md5passwd.merge"
  | committing => text "md5passwd.commit"
  | prompting => text "md5passwd.prompt"
  | transaction => text "md5passwd.transaction"

inductive Event
  | audit (event : AuditEvent)
  /-- All lines of a file are rewritten. -/
  | merged (primary : Text) (copied dropped : Nat) (matched : Bool)
  /-- A staging file that is given up could not be closed. -/
  | closeFailed (staging : Text)
  /-- A staging file that is given up could not be removed. -/
  | removeFailed (part : Part) (staging : Text)
  /-- No hard link can be made here; the file is copied. -/
  | linkUnsupported (backup reason : Text)
  /-- The staging file became the primary one. -/
  | installed (primary : Text) (backedUp : Bool)
  /-- A record that was to be added existed and is replaced. -/
  | replacedExisting (identity realm : Text)
  /-- Nothing was entered at a prompt. -/
  | promptAborted
  /-- What was entered at a prompt is no text. -/
  | promptUndecodable
  deriving DecidableEq, Repr

namespace Event

def level : Event → Level
  | audit event => event.level
  | merged .. => Level.debug
  | closeFailed _ => Level.warning
  | removeFailed .. => Level.error
  | linkUnsupported .. => Level.debug
  | installed .. => Level.debug
  | replacedExisting .. => Level.info
  | promptAborted => Level.debug
  | promptUndecodable => Level.debug

def logger : Event → Text
  | audit _ => AuditEvent.logger
  | merged .. => Part.merging.logger
  | closeFailed _ => Part.merging.logger
  | removeFailed part _ => part.logger
  | linkUnsupported .. => Part.committing.logger
  | installed .. => Part.committing.logger
  | replacedExisting .. => Part.transaction.logger
  | promptAborted => Part.prompting.logger
  | promptUndecodable => Part.prompting.logger

/-- An entry in one sentence; an audit event begins with its type. -/
def message : Event → Text
  | audit event => event.type ++ text ": " ++ event.message
  | merged primary copied dropped matched =>
    text "merged " ++ primary ++ text ": copied=" ++ Text.decimal copied ++ text " dropped=" ++
      Text.decimal dropped ++ text " matched=" ++ AuditEvent.inSentence (.boolean matched)
  | closeFailed staging => text "error closing " ++ staging ++ text " during abort"
  | removeFailed _ staging => text "unable to remove " ++ staging
  | linkUnsupported backup reason =>
    text "hard link to " ++ backup ++ text " unsupported (" ++ reason ++ text "), copying"
  | installed primary backedUp =>
    text "installed " ++ primary ++ text " (backup " ++
      (if backedUp then text "kept" else text "not needed") ++ text ")"
  | replacedExisting identity realm =>
    text "add replaced existing record for " ++ identity ++ text "/" ++ realm
  | promptAborted => text "secret prompt aborted"
  | promptUndecodable => text "secret prompt returned undecodable input"

/-- The fields of an audit event in a transaction; a note has none. -/
def fields? (event : Event) (transaction : Text) : Option Fields :=
  match event with
  | audit event => some (event.fields transaction)
  | _ => none

end Event

end CredentialStore.Log
