import CredentialStore.Text.Basic

namespace CredentialStore.Log

/-- How severe a log record is: the greater, the more severe. -/
abbrev Level := Int

namespace Level

/-- The lowest level, which a logger has before it is set to another one. -/
def notSet : Level := 0

/-- Steps of the work, for whoever looks for a fault. -/
def debug : Level := 10

def info : Level := 20

/-- Something is not as it should be, and the work goes on. -/
def warning : Level := 30

def error : Level := 40

def critical : Level := 50

/-- The names of the levels that have one. -/
def names : List (Level × Text) :=
  [(notSet, text "NOTSET"), (debug, text "DEBUG"), (info, text "INFO"), (warning, text "WARNING"),
    (error, text "ERROR"), (critical, text "CRITICAL")]

def aliases : List (Level × Text) := [(warning, text "WARN"), (critical, text "FATAL")]

/-- The level of a name that is spelled exactly. -/
def ofExactName? (name : Text) : Option Level :=
  ((names ++ aliases).find? fun entry => entry.2 = name).map Prod.fst

/-- The level from which a logger keeps records. One that is set to no level of its own keeps warnings
    and what is more severe, as the log does before it is set up. -/
def threshold (level : Level) : Level := if level = notSet then warning else level

/-- A level as a log line shows it. -/
def name (level : Level) : Text :=
  (names.lookup level).getD (text "Level " ++ Text.signedDecimal level)

end Level

end CredentialStore.Log
