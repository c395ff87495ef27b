import CredentialStore.Settings.Basic
import CredentialStore.Settings.Written
import CredentialStore.Text.Numeral
import CredentialStore.Text.Quoted

namespace CredentialStore

namespace Settings

inductive Field
  | serverRoot
  | user
  | privileged
  | defaultRealm
  | digestRealm
  | allowMissingDelete
  | stagingMode
  | maskSignals
  deriving DecidableEq, Repr

/-- The name of a field where settings are written down. -/
def Field.name : Field → Text
  | serverRoot => text "server_root"
  | user => text "user"
  | privileged => text "privileged"
  | defaultRealm => text "default_realm"
  | digestRealm => text "digest_realm"
  | allowMissingDelete => text "allow_missing_delete"
  | stagingMode => text "staging_mode"
  | maskSignals => text "mask_signals"

/-- What can be wrong with the value of a field. -/
inductive Problem
  | missing
  | notText
  | empty
  | notBoolean
  | unknownBoolean
  /-- A truth value is written with surrogates. -/
  | surrogateBoolean
  | notInteger
  | fraction
  /-- A number of double precision that no word holds. -/
  | outOfRange
  | notFinite
  | negative
  | tooGreat
  | notOctal (written : Text)
  deriving DecidableEq, Repr

/-- What the user is told of a value that has the right type and breaks a rule. -/
def Problem.message? : Problem → Option Text
  | empty => some (text "must not be empty")
  | notOctal written => some (text "not an octal file mode: " ++ written.quoted)
  | _ => none

abbrev Source := Field → Option Written

def readText : Written → Except Problem Text
  | .string t => pure t
  | _ => throw .notText

/-- Reads a text that must not be empty. -/
def readNonempty (w : Written) : Except Problem { t : Text // t ≠ [] } :=
  match readText w with
  | .error problem => throw problem
  | .ok [] => throw .empty
  | .ok (c :: rest) => pure ⟨c :: rest, by simp⟩

def readOptionalText : Written → Except Problem (Option Text)
  | .null => pure none
  | w => (readText w).map some

def falseWords : List Text :=
  [text "0", text "off", text "f", text "false", text "n", text "no"]

def trueWords : List Text :=
  [text "1", text "on", text "t", text "true", text "y", text "yes"]

/-- The truth value of an integer: zero and one have one. -/
def truthOf (n : Int) : Except Problem Bool :=
  if n = 0 then pure false else if n = 1 then pure true else throw .unknownBoolean

/-- Reads a truth value: true or false, one or zero, or a word in letters of either case. A number that
    no word holds is not even a wrong truth value. -/
def readBoolean : Written → Except Problem Bool
  | .boolean b => pure b
  | .integer n => if Written.fitsWord n then truthOf n else throw .notBoolean
  | .double mantissa halvings =>
    match Written.whole? mantissa halvings with
    | none => throw .notBoolean
    | some n => if Written.isWithinWords n then truthOf n else throw .notBoolean
  | .string t =>
    if t.any CodePoint.isSurrogate then throw .surrogateBoolean
    else if t.asciiLower ∈ falseWords then pure false
    else if t.asciiLower ∈ trueWords then pure true
    else throw .unknownBoolean
  | .null | .infinite | .collection _ => throw .notBoolean

/-- Reads an integer; one that is written as a text is octal. -/
def readInteger : Written → Except Problem Int
  | .boolean b => pure (if b then 1 else 0)
  | .integer n => pure n
  | .double mantissa halvings =>
    match Written.whole? mantissa halvings with
    | none => throw .fraction
    | some n => if Written.isWithinWords n then pure n else throw .outOfRange
  | .infinite => throw .notFinite
  | .string t =>
    match Numeral.toInt? .octal t with
    | none => throw (.notOctal t)
    | some n => pure n
  | .null | .collection _ => throw .notInteger

def readMode (w : Written) : Except Problem { mode : Nat // mode ≤ maximumMode } :=
  match readInteger w with
  | .error problem => throw problem
  | .ok (.negSucc _) => throw .negative
  | .ok (.ofNat n) => if h : n ≤ maximumMode then pure ⟨n, h⟩ else throw .tooGreat

/-- Reads a field, or takes its default where it is not written down. -/
def readField {α : Type} (source : Source) (field : Field) (default : Option α)
    (read : Written → Except Problem α) : Except Problem α :=
  match source field, default with
  | some written, _ => read written
  | none, some value => pure value
  | none, none => throw .missing

/-- The problem of a field that could not be read. -/
def problemOf {α : Type} (field : Field) : Except Problem α → List (Field × Problem)
  | .ok _ => []
  | .error problem => [(field, problem)]

/-- Reads settings, or gives all problems in the order of the fields. -/
def read (source : Source) : Except (List (Field × Problem)) Settings :=
  let serverRoot := readField source .serverRoot none readNonempty
  let user := readField source .user none readNonempty
  let privileged := readField source .privileged (some false) readBoolean
  let defaultRealm := readField source .defaultRealm (some ⟨text "sys", by decide⟩) readNonempty
  let digestRealm := readField source .digestRealm (some none) readOptionalText
  let allowMissingDelete := readField source .allowMissingDelete (some false) readBoolean
  let stagingMode := readField source .stagingMode (some ⟨0o600, by decide⟩) readMode
  let maskSignals := readField source .maskSignals (some true) readBoolean
  match serverRoot, user, privileged, defaultRealm, digestRealm, allowMissingDelete, stagingMode,
    maskSignals with
  | .ok serverRoot, .ok user, .ok privileged, .ok defaultRealm, .ok digestRealm,
    .ok allowMissingDelete, .ok stagingMode, .ok maskSignals =>
    pure
      { serverRoot := serverRoot.1, user := user.1, privileged, defaultRealm := defaultRealm.1
        digestRealm, allowMissingDelete, stagingMode := stagingMode.1, maskSignals
        serverRoot_ne_nil := serverRoot.2, user_ne_nil := user.2
        defaultRealm_ne_nil := defaultRealm.2, stagingMode_le := stagingMode.2 }
  | _, _, _, _, _, _, _, _ =>
    throw (problemOf .serverRoot serverRoot ++ problemOf .user user ++
      problemOf .privileged privileged ++ problemOf .defaultRealm defaultRealm ++
      problemOf .digestRealm digestRealm ++ problemOf .allowMissingDelete allowMissingDelete ++
      problemOf .stagingMode stagingMode ++ problemOf .maskSignals maskSignals)

end Settings

end CredentialStore
