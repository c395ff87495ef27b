import CredentialStore.Text.Basic

namespace CredentialStore.CommandLine

/-- What a caller can ask for with a flag. -/
inductive Flag
  | help
  | add
  | delete
  | group
  | serverRoot
  deriving DecidableEq, Repr

namespace Flag

/-- All flags in the order in which the help shows them. -/
def all : List Flag := [help, add, delete, group, serverRoot]

def letter : Flag → CodePoint
  | help => CodePoint.ofChar 'h'
  | add => CodePoint.ofChar 'a'
  | delete => CodePoint.ofChar 'x'
  | group => CodePoint.ofChar 'g'
  | serverRoot => CodePoint.ofChar 's'

def shortName (f : Flag) : Text := [CodePoint.ofChar '-', f.letter]

def longName : Flag → Text
  | help => text "--help"
  | add => text "--add"
  | delete => text "--delete"
  | group => text "--group"
  | serverRoot => text "--server-root"

/-- What stands for the value of a flag that takes one. -/
def placeholder? : Flag → Option Text
  | group => some (text "GROUP")
  | serverRoot => some (text "SERVER_ROOT")
  | help | add | delete => none

def takesValue (f : Flag) : Bool := f.placeholder?.isSome

/-- What the help says of a flag. -/
def description : Flag → Text
  | help => text "show this help message and exit"
  | add => text "Add a password"
  | delete => text "Delete a password"
  | group => text "Group (realm) of the entry"
  | serverRoot => text "Directory holding passwd.md5"

/-- Both names, as a message calls the flag. -/
def title (f : Flag) : Text := f.shortName ++ text "/" ++ f.longName

def ofLetter? (c : CodePoint) : Option Flag := all.find? fun f => f.letter = c

def ofShortName? (name : Text) : Option Flag := all.find? fun f => f.shortName = name

def ofLongName? (name : Text) : Option Flag := all.find? fun f => f.longName = name

/-- The flags whose long names begin with a text. -/
def startingWith (beginning : Text) : List Flag := all.filter fun f => beginning.isPrefixOf f.longName

theorem ofLetter?_letter (f : Flag) : ofLetter? f.letter = some f := by cases f <;> decide

theorem ofShortName?_shortName (f : Flag) : ofShortName? f.shortName = some f := by
  cases f <;> decide

theorem ofLongName?_longName (f : Flag) : ofLongName? f.longName = some f := by cases f <;> decide

end Flag

end CredentialStore.CommandLine
