import CredentialStore.Log.Json
import CredentialStore.Log.Level

namespace CredentialStore.Log

inductive AuditEvent
  | started (operation identity realm caller : Text)
  | committed (operation identity realm : Text)
  | aborted (operation identity realm code state reason : Text)
  /-- A line of a file was no record and was dropped. -/
  | malformedRecord (path : Text) (line : Value)
  | security (event severity : Text) (details : Fields)
  deriving DecidableEq, Repr

namespace AuditEvent

def logger : Text := text "md5passwd.audit"

def type : AuditEvent → Text
  | started .. => text "TRANSACTION_STARTED"
  | committed .. => text "TRANSACTION_COMMITTED"
  | aborted .. => text "TRANSACTION_ABORTED"
  | malformedRecord .. => text "MALFORMED_RECORD"
  | security .. => text "SECURITY_EVENT"

/-- The level of a severity; an unknown one counts as medium. -/
def severityLevel (severity : Text) : Level :=
  if severity = text "low" then Level.info
  else if severity = text "high" then Level.error
  else if severity = text "critical" then Level.critical
  else Level.warning

/-- The level of an event. An abort for a wrong secret or a refusal is a warning. -/
def level : AuditEvent → Level
  | started .. => Level.info
  | committed .. => Level.info
  | aborted _ _ _ code _ _ =>
    if code = text "MISMATCH" ∨ code = text "PERMISSION_DENIED" then Level.warning else Level.info
  | malformedRecord .. => Level.warning
  | security _ severity _ => severityLevel severity

def inSentence : Value → Text
  | .string t => t
  | .null => text "None"
  | .boolean true => text "True"
  | .boolean false => text "False"
  | v => Json.value v

def message : AuditEvent → Text
  | started operation identity realm caller =>
    operation ++ text " requested for " ++ identity ++ text "/" ++ realm ++ text " by " ++ caller
  | committed operation identity realm =>
    operation ++ text " committed for " ++ identity ++ text "/" ++ realm
  | aborted operation identity realm code state _ =>
    operation ++ text " aborted for " ++ identity ++ text "/" ++ realm ++ text " in state " ++ state ++
      text ": " ++ code
  | malformedRecord path line =>
    text "Dropping malformed line " ++ inSentence line ++ text " of " ++ path
  | security event _ _ => text "Security event: " ++ event

def subject : AuditEvent → Fields
  | started operation identity realm caller =>
    [(text "operation", .string operation), (text "identity", .string identity),
      (text "realm", .string realm), (text "caller", .string caller)]
  | committed operation identity realm =>
    [(text "operation", .string operation), (text "identity", .string identity),
      (text "realm", .string realm)]
  | aborted operation identity realm code state reason =>
    [(text "operation", .string operation), (text "identity", .string identity),
      (text "realm", .string realm), (text "code", .string code), (text "state", .string state),
      (text "reason", .string reason)]
  | malformedRecord path line => [(text "path", .string path), (text "line_number", line)]
  | security event severity details =>
    [(text "security_event", .string event), (text "severity", .string severity)] ++ details

/-- The fields of an event in a transaction. A detail of the same name replaces the transaction. -/
def fields (event : AuditEvent) (transaction : Text) : Fields :=
  Fields.update [(text "event_type", .string event.type), (text "transaction_id", .string transaction)]
    (event.subject ++ [(text "message", .string event.message)])

/-- Names that a detail of a security event may not have: each already means a part of the event. -/
def reservedNames : List Text :=
  [text "self", text "event", text "level", text "event_type", text "security_event", text "severity",
    text "message"]

end AuditEvent

end CredentialStore.Log
