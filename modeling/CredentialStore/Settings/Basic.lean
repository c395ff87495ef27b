import CredentialStore.Store.Paths

namespace CredentialStore

/-- The greatest permissions that a staging file may get. -/
def maximumMode : Nat := 0o777

/-- What a transaction knows of its surroundings. The conditions that settings have to meet are part of their
    type, and settings that are made do not change. -/
structure Settings where
  /-- The directory of the store. -/
  serverRoot : Text
  /-- Who is calling. -/
  user : Text
  /-- Whether the caller may add and delete records and change those of others. -/
  privileged : Bool := false
  /-- The realm of a record for which none is named. -/
  defaultRealm : Text := text "sys"
  /-- The realm of every message that is digested, if it is not the realm of the record. -/
  digestRealm : Option Text := none
  /-- Whether a record that is to be deleted may be missing. -/
  allowMissingDelete : Bool := false
  /-- The permissions of the staging file. -/
  stagingMode : Nat := 0o600
  /-- Whether signals are ignored while the store is held. -/
  maskSignals : Bool := true
  serverRoot_ne_nil : serverRoot ≠ []
  user_ne_nil : user ≠ []
  defaultRealm_ne_nil : defaultRealm ≠ []
  stagingMode_le : stagingMode ≤ maximumMode
  deriving DecidableEq, Repr

namespace Settings

def paths (s : Settings) : StorePaths := StorePaths.locate s.serverRoot

/-- Whether a note may be attached to settings under a name. Notes have names that begin with an
    underscore, which are names of no fields; all else about settings is fixed. -/
def isNoteName (name : Text) : Bool := name.head? = some (CodePoint.ofChar '_')

/-- The realm of the message that is digested for a record of a realm. -/
def realmForDigest (s : Settings) (realm : Text) : Text := s.digestRealm.getD realm

end Settings

end CredentialStore
