import CredentialStore.Log.Setup
import CredentialStore.Settings.Machine
import CredentialStore.Settings.Reading

namespace CredentialStore

/-- What the environment says about settings and the log. -/
structure Defaults where
  serverRoot : Text := text "/etc/cups"
  /-- The group whose name is the default realm, if it exists. -/
  group : Text := text "sys"
  digestRealm : Option Text := none
  logLevel : Text := text "WARNING"
  logStructured : Bool := true
  logFile : Option Text := none
  /-- Permissions of the staging file in octal digits. -/
  stagingMode : Text := text "600"
  deriving DecidableEq, Repr

namespace Defaults

def ofEnvironment (environment : Environment) : Defaults :=
  let value (name : String) (default : Text) := (environment.lookup (text name)).getD default
  { serverRoot := value "CUPS_SERVERROOT" (text "/etc/cups")
    group := value "MD5PASSWD_DEFAULT_REALM" (text "sys")
    digestRealm := Machine.nonempty? environment (text "MD5PASSWD_DIGEST_REALM")
    logLevel := value "MD5PASSWD_LOG_LEVEL" (text "WARNING")
    logStructured := Machine.saysYes (value "MD5PASSWD_LOG_JSON" (text "1"))
    logFile := Machine.nonempty? environment (text "MD5PASSWD_LOG_FILE")
    stagingMode := value "MD5PASSWD_STAGING_MODE" (text "600") }

/-- How the log is set up; whoever debugs gets every record. -/
def logOptions (d : Defaults) (m : Machine) : Log.Options :=
  { level := if m.isDebug then text "DEBUG" else d.logLevel
    structured := d.logStructured
    file := d.logFile }

/-- The value of a field where none is given; fields that are not named here have their own default. -/
def field? (d : Defaults) (m : Machine) : Settings.Field → Option Written
  | .serverRoot => some (.string d.serverRoot)
  | .user => some (.string m.user)
  | .privileged => some (.boolean m.isPrivileged)
  | .defaultRealm => some (.string (m.realm d.group))
  | .digestRealm => some ((d.digestRealm.map Written.string).getD .null)
  | .stagingMode => some (.string d.stagingMode)
  | .allowMissingDelete => none
  | .maskSignals => none

/-- Whether a given value counts as none: a directory or user that is nothing, a missing privilege. -/
def isPassedOver : Settings.Field → Written → Bool
  | .serverRoot, w => w.isNothing
  | .user, w => w.isNothing
  | .privileged, w => w = .null
  | _, _ => false

/-- The given values, and the defaults where there are none. -/
def source (d : Defaults) (m : Machine) (given : Settings.Source) : Settings.Source := fun field =>
  match given field with
  | some written => if isPassedOver field written then d.field? m field else some written
  | none => d.field? m field

/-- Settings from given values and the defaults. -/
def settings (d : Defaults) (m : Machine) (given : Settings.Source) :
    Except (List (Settings.Field × Settings.Problem)) Settings :=
  Settings.read (d.source m given)

end Defaults

end CredentialStore
