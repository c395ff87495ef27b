import CredentialStore.Text.Encoding

namespace CredentialStore

abbrev Environment := List (Text × Text)

inductive VariableProblem
  /-- The value has no bytes. -/
  | unencodable
  /-- The name or the value holds the code point zero, or the name an equals sign. -/
  | unseparated
  | nameless
  deriving DecidableEq, Repr

namespace Environment

/-- A variable as a process reads it after it was set. It is kept as octets, so surrogates that hold the
    octets of a character come back as that character. -/
def settle (name value : Text) : Except VariableProblem (Text × Text) :=
  match value.toBytes? with
  | none => throw .unencodable
  | some octets =>
    if 0 ∈ name ∨ 0 ∈ value ∨ CodePoint.ofChar '=' ∈ name then throw .unseparated
    else if name.isEmpty then throw .nameless
    else pure (name, Bytes.toText octets)

/-- The environment of a process for which variables are set. -/
def ofSettings (given : List (Text × Text)) : Except VariableProblem Environment :=
  given.mapM fun v => settle v.1 v.2

end Environment

/-- A process and the machine it runs on. -/
structure Machine where
  environment : Environment := []
  /-- The number of the account that runs the process. -/
  uid : Nat := 0
  /-- Names of accounts by number. -/
  accounts : List (Nat × Text) := [(0, text "root")]
  groups : List Text := [text "sys"]
  deriving DecidableEq, Repr

namespace Machine

/-- The name of a user or group of whom nothing is known. -/
def unknown : Text := text "unknown"

/-- The value of a variable that is set and not empty. -/
def nonempty? (environment : Environment) (name : Text) : Option Text :=
  (environment.lookup name).filter fun value => !value.isEmpty

/-- Who is calling: whom the environment names, or whose account runs the process. -/
def userIn (m : Machine) (environment : Environment) : Text :=
  ((nonempty? environment (text "CUPS_USER")).or (nonempty? environment (text "USER"))).getD
    ((m.accounts.lookup m.uid).getD unknown)

/-- Who is calling, by the environment of the process. -/
def user (m : Machine) : Text := m.userIn m.environment

def isPrivileged (m : Machine) : Bool := m.uid == 0

/-- A group that exists, or the unknown one. -/
def realm (m : Machine) (group : Text) : Text := if group ∈ m.groups then group else unknown

/-- Whether a variable says yes, in letters of either case. -/
def saysYes (value : Text) : Bool := value.asciiLower ∈ [text "1", text "true", text "yes"]

def isDebug (m : Machine) : Bool :=
  saysYes ((m.environment.lookup (text "MD5PASSWD_DEBUG")).getD [])

end Machine

end CredentialStore
