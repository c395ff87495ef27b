import CredentialStore.Log.Level

namespace CredentialStore.Log

inductive Format
  /-- One JSON object a line. -/
  | structured
  /-- Time, logger, level and message with dashes between them. -/
  | plain
  deriving DecidableEq, Repr

inductive Handler
  | standardError (format : Format)
  | file (format : Format)
  /-- Nowhere. -/
  | silent
  deriving DecidableEq, Repr

def Handler.isFile : Handler → Bool
  | file _ => true
  | _ => false

/-- The log of a process: the level from which it keeps records, and its handlers. -/
structure Setup where
  level : Level
  handlers : List Handler
  deriving DecidableEq, Repr

/-- How the log is to be set up. -/
structure Options where
  /-- The name of a level in letters of either case. -/
  level : Text := text "WARNING"
  structured : Bool := true
  file : Option Text := none
  deriving DecidableEq, Repr

inductive LevelProblem
  | unknown
  /-- The name belongs to the text of the basic format. -/
  | basicFormat
  /-- The name belongs to the table of styles. -/
  | styles
  deriving DecidableEq, Repr

namespace LevelProblem

/-- Names that are taken by something other than a level. -/
def takenNames : List (Text × LevelProblem) :=
  [(text "BASIC_FORMAT", basicFormat), (text "_STYLES", styles)]

end LevelProblem

namespace Level

/-- The capital of a letter, where it is one or two letters A to Z: small letters, the dotless i, the
    long s and its ligatures with t. Other code points are kept. -/
def capital (c : CodePoint) : Text :=
  if 97 ≤ c.val ∧ c.val ≤ 122 then [Fin.ofNat 0x110000 (c.val - 32)]
  else if c.val = 0x131 then text "I"
  else if c.val = 0x17F then text "S"
  else if c.val = 0xFB05 ∨ c.val = 0xFB06 then text "ST"
  else [c]

/-- The level of a name in letters of either case. -/
def ofName (name : Text) : Except LevelProblem Level :=
  let name := name.flatMap capital
  match ofExactName? name with
  | some level => pure level
  | none => throw ((LevelProblem.takenNames.lookup name).getD .unknown)

end Level

namespace Setup

def format (options : Options) : Format := if options.structured then .structured else .plain

/-- Sets up the log anew; a file of the empty name is none. -/
def configure (options : Options) : Except LevelProblem Setup := do
  let level ← Level.ofName options.level
  let format := format options
  let toFile := match options.file with
    | some (_ :: _) => [Handler.file format]
    | _ => []
  pure { level, handlers := .standardError format :: toFile }

end Setup

/-- Whether a log that is set up in this way is kept in a file. -/
def Options.keepsFile (options : Options) : Bool :=
  match Setup.configure options with
  | .ok setup => setup.handlers.any Handler.isFile
  | .error _ => false

end CredentialStore.Log
