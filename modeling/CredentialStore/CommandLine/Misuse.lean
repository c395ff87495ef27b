import CredentialStore.CommandLine.Flag
import CredentialStore.Text.Quoted

namespace CredentialStore.CommandLine

/-- What is wrong with a command line. -/
inductive Misuse
  /-- A word begins the long names of several flags. -/
  | ambiguous (word : Text) (candidates : List Flag)
  /-- A flag cannot stand beside one that was given before. -/
  | conflict (flag earlier : Flag)
  /-- No value follows a flag that takes one. -/
  | valueMissing (flag : Flag)
  /-- A value is attached to a flag that takes none. -/
  | valueRefused (flag : Flag) (value : Text)
  /-- Words for which there is no use, in order. -/
  | unrecognized (words : List Text)
  deriving DecidableEq, Repr

namespace Misuse

def about (flag : Flag) (complaint : Text) : Text :=
  text "argument " ++ flag.title ++ text ": " ++ complaint

def message : Misuse → Text
  | ambiguous word candidates =>
    text "ambiguous option: " ++ word ++ text " could match " ++
      Text.joined (text ", ") (candidates.map Flag.longName)
  | conflict flag earlier => about flag (text "not allowed with argument " ++ earlier.title)
  | valueMissing flag => about flag (text "expected one argument")
  | valueRefused flag value => about flag (text "ignored explicit argument " ++ value.quoted)
  | unrecognized words => text "unrecognized arguments: " ++ Text.joined (text " ") words

end Misuse

end CredentialStore.CommandLine
