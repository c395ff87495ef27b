import CredentialStore.Digest.Token
import CredentialStore.Error.Credential

namespace CredentialStore.Policy

def minimumLength : Nat := 6

/-- The rules in one sentence, for the user. -/
def hint : Text :=
  text "Your password must be at least 6 characters long, cannot contain your username, " ++
    text "and must contain at least one letter and number."

/-- What the rules say of a secret. -/
inductive Verdict
  | accepted
  | tooShort
  | lacksLetterOrDigit
  | containsIdentity
  deriving DecidableEq, Repr

/-- Why a secret is refused; none for an accepted one. -/
def Verdict.reason? : Verdict → Option Text
  | accepted => none
  | tooShort =>
    some (text "must be at least " ++ Text.decimal minimumLength ++ text " characters long")
  | lacksLetterOrDigit => some (text "must contain at least one letter and one number")
  | containsIdentity => some (text "cannot contain your username")

/-- An octet A to Z or a to z. -/
def isLetter (b : UInt8) : Bool := (65 ≤ b && b ≤ 90) || (97 ≤ b && b ≤ 122)

/-- An octet 0 to 9. -/
def isDigit (b : UInt8) : Bool := 48 ≤ b && b ≤ 57

/-- Whether the octets of `part` stand next to each other somewhere in `whole`. -/
def occursIn (part : Bytes) : (whole : Bytes) → Bool
  | [] => part.isEmpty
  | b :: rest => part.isPrefixOf (b :: rest) || occursIn part rest

/-- How many characters a secret has: its code points, or the octets that start one. -/
def characterCount : TextOrBytes → Nat
  | .text value => value.length
  | .bytes value => value.countP fun b => !Bytes.isContinuation b

/-- Applies the rules to a secret, in order. None when the secret, or the identity that it must not
    contain, is no proper Unicode text. -/
def check? (secret : TextOrBytes) (identity : Text) : Option Verdict := do
  let octets ← secret.utf8?
  if characterCount secret < minimumLength then
    return .tooShort
  if !(octets.any isLetter && octets.any isDigit) then
    return .lacksLetterOrDigit
  if identity.isEmpty then
    return .accepted
  let name ← identity.toUtf8?
  return if occursIn name octets then .containsIdentity else .accepted

/-- The error of a refused secret, which carries the rules as its hint. -/
def Verdict.error? (v : Verdict) : Option CredentialError :=
  v.reason?.map fun reason => .validationFailed reason (some hint)

/-- What a field must not hold. -/
def forbidden : List CodePoint := [CodePoint.ofChar ':', CodePoint.ofChar '\n', CodePoint.ofChar '\r']

/-- Checks a field of a record, naming it in the error. -/
def validateField (name value : Text) : Except CredentialError Unit :=
  if value.isEmpty then throw (.invalid (name ++ text " must not be empty"))
  else match forbidden.find? (· ∈ value) with
    | some c => throw (.invalid (name ++ text " must not contain " ++ Text.quoted [c]))
    | none => pure ()

end CredentialStore.Policy
