import CredentialStore.Error.Credential
import CredentialStore.Record.Basic
import CredentialStore.Secret.Prompt
import CredentialStore.Settings.Basic

namespace CredentialStore

inductive Operation
  /-- Adds a record, in place of the one that is there. -/
  | add
  /-- Changes the secret of a record that is there. -/
  | change
  | delete
  deriving DecidableEq, Repr

namespace Operation

def all : List Operation := [add, change, delete]

def name : Operation → Text
  | add => text "ADD"
  | change => text "CHANGE"
  | delete => text "DELETE"

def ofName? (t : Text) : Option Operation := all.find? fun o => o.name = t

/-- The operation of a name in letters of either case. -/
def ofCall? (t : Text) : Option Operation := all.find? fun o => o.name.asciiLower = t.asciiLower

end Operation

inductive Phase
  | start
  /-- The staging file was created, so the store is held. -/
  | gated
  /-- The primary file was copied without the record. -/
  | merged
  /-- The staging file is complete and closed. -/
  | validated
  | committed
  | aborted
  deriving DecidableEq, Repr

namespace Phase

def all : List Phase := [start, gated, merged, validated, committed, aborted]

def name : Phase → Text
  | start => text "START"
  | gated => text "GATED"
  | merged => text "MERGED"
  | validated => text "VALIDATED"
  | committed => text "COMMITTED"
  | aborted => text "ABORTED"

end Phase

inductive Outcome
  | committed
  | permissionDenied
  | validationFailed
  | mismatch
  | notFound
  | busy
  | storeFailure
  | noSecret
  deriving DecidableEq, Repr

namespace Outcome

def all : List Outcome :=
  [committed, permissionDenied, validationFailed, mismatch, notFound, busy, storeFailure, noSecret]

def name : Outcome → Text
  | committed => text "COMMITTED"
  | permissionDenied => text "PERMISSION_DENIED"
  | validationFailed => text "VALIDATION_FAILED"
  | mismatch => text "MISMATCH"
  | notFound => text "NOT_FOUND"
  | busy => text "BUSY"
  | storeFailure => text "IO_ERROR"
  | noSecret => text "NO_SECRET"

def ofError : CredentialError → Outcome
  | .permissionDenied _ => permissionDenied
  | .validationFailed _ _ => validationFailed
  | .mismatch _ => mismatch
  | .notFound _ _ => notFound
  | .busy _ => busy
  | .storeFailure _ _ => storeFailure
  | .noSecret _ => noSecret
  | .unclassified _ => storeFailure

end Outcome

/-- What is to be done, for whom and by whom. -/
structure Transaction where
  settings : Settings
  operation : Operation
  identity : Text
  realm : Text
  source : SecretSource
  deriving DecidableEq, Repr

namespace Transaction

/-- A given text, or a default in place of none or the empty text. -/
def orDefault (given : Option Text) (default : Text) : Text :=
  match given with
  | some (c :: rest) => c :: rest
  | _ => default

/-- A transaction on the record of an identity and a realm: by default that of the caller, in the
    default realm. -/
def of (settings : Settings) (operation : Operation) (identity realm : Option Text)
    (source : SecretSource) : Transaction where
  settings
  operation
  identity := orDefault identity settings.user
  realm := orDefault realm settings.defaultRealm
  source

/-- What is reported of a transaction that ended. -/
structure Report where
  outcome : Outcome
  operation : Operation
  identity : Text
  realm : Text
  phase : Phase
  /-- The phase in which the transaction failed. -/
  failedIn : Option Phase := none
  error : Option CredentialError := none
  /-- The record that was written. -/
  record : Option Record := none
  deriving DecidableEq, Repr

namespace Report

def isCommitted (r : Report) : Bool := r.outcome == .committed

/-- The exit status of a command that does the transaction. -/
def exitStatus (r : Report) : Nat := (r.error.map CredentialError.exitStatus).getD 0

/-- What the user is told of a failure. -/
def message? (r : Report) : Option Text := r.error.map CredentialError.message

end Report

end Transaction

end CredentialStore
