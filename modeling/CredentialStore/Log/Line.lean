import CredentialStore.Log.Json
import CredentialStore.Log.Level
import CredentialStore.Log.Timestamp

namespace CredentialStore.Log

/-- An exception that a record reports: its kind and what it says. -/
structure Exception where
  kind : Text
  description : Text
  deriving DecidableEq, Repr

/-- The kind alone, or the kind and the description with a colon between them. -/
def Exception.summary (e : Exception) : Text :=
  if e.description.isEmpty then e.kind else e.kind ++ text ": " ++ e.description

/-- A log record. The fields that every record has come first in its line; its own fields follow, and take the
    place of an earlier field of the same name. -/
structure Line where
  /-- Seconds since 1970. -/
  seconds : Int
  level : Level
  logger : Text
  message : Text
  /-- The file that the record comes from. -/
  file : Text
  function : Option Text
  number : Int
  transaction : Text
  exception : Option Exception
  extra : Fields
  deriving DecidableEq, Repr

namespace Line

/-- What follows the last slash of a path. -/
def baseName (path : Text) : Text :=
  (path.reverse.takeWhile (· ≠ CodePoint.ofChar '/')).reverse

/-- A file name without its last extension; dots at its start do not begin an extension. -/
def withoutExtension (name : Text) : Text :=
  let dots := name.takeWhile (· = CodePoint.ofChar '.')
  let rest := name.drop dots.length
  match rest.reverse.dropWhile (· ≠ CodePoint.ofChar '.') with
  | [] => name
  | _ :: stem => dots ++ stem.reverse

/-- The fields that every line has, and the transaction and the exception where there are any. -/
def ownFields (line : Line) (timestamp : Text) : Fields :=
  [(text "timestamp", .string timestamp), (text "level", .string line.level.name),
    (text "logger", .string line.logger), (text "message", .string line.message),
    (text "module", .string (withoutExtension (baseName line.file))),
    (text "function", (line.function.map Value.string).getD .null), (text "line", .integer line.number)] ++
  (if line.transaction.isEmpty then [] else [(text "transaction_id", .string line.transaction)]) ++
  (line.exception.map fun e => (text "exception", Value.string e.summary)).toList

def fields (line : Line) (timestamp : Text) : Fields :=
  Fields.update (line.ownFields timestamp) line.extra

/-- Why a record has no line. -/
inductive Problem
  | time (problem : Timestamp.Problem)
  /-- An integer has too many digits. -/
  | digits
  deriving DecidableEq, Repr

/-- The time of a record. A level of too many digits has no name, so that there is no record of it. -/
def timestamp (line : Line) : Except Problem Text :=
  if Json.isShort line.level then (Timestamp.ofSeconds line.seconds).mapError .time else throw .digits

/-- The text of a line, if its time and all integers in it can be written out. -/
def render (line : Line) : Except Problem Text := do
  let timestamp ← line.timestamp
  match Json.object? (line.fields timestamp) with
  | some t => pure t
  | none => throw .digits

/-- The line for readers who want no JSON: time, logger, level and message. -/
def renderPlain (line : Line) : Except Problem Text := do
  let timestamp ← line.timestamp
  pure (Text.joined (text " - ") [timestamp, line.logger, line.level.name, line.message])

end Line

end CredentialStore.Log
