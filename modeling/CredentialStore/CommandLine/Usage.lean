import CredentialStore.CommandLine.Flag

namespace CredentialStore.CommandLine.Usage

def command : Text := text "md5passwd"

def lineFeed : Text := text "\n"

def username : Text := text "username"

/-- A flag by its short name, with the placeholder of its value. -/
def brief (f : Flag) : Text :=
  f.shortName ++ (f.placeholder?.map fun p => text " " ++ p).getD []

def optional (t : Text) : Text := text "[" ++ t ++ text "]"

/-- The usage line. The two flags that exclude each other stand together. -/
def line : Text :=
  text "usage: " ++
    Text.joined (text " ")
      [command, optional (brief .help), optional (brief .add ++ text " | " ++ brief .delete),
        optional (brief .group), optional (brief .serverRoot), optional username] ++ lineFeed

def column : Nat := 24

def blanks (n : Nat) : Text := List.replicate n (CodePoint.ofChar ' ')

/-- A heading and its explanation, on one line where they fit with two spaces between them. -/
def entry (heading explanation : Text) : Text :=
  let start := blanks 2 ++ heading
  (if start.length + 2 ≤ column then start ++ blanks (column - start.length)
    else start ++ lineFeed ++ blanks column) ++ explanation ++ lineFeed

/-- The names of a flag, each with the placeholder of its value. -/
def heading (f : Flag) : Text :=
  let value := (f.placeholder?.map fun p => text " " ++ p).getD []
  f.shortName ++ value ++ text ", " ++ f.longName ++ value

def examples : List Text :=
  [text "Examples:", text "  md5passwd                      Change your own password",
    text "  md5passwd -a bob               Add a password for bob (root only)",
    text "  md5passwd -g lpadmin -x bob    Delete bob's entry in group lpadmin (root only)",
    blanks 8]

def help : Text :=
  line ++ lineFeed ++ text "Add, change, or delete passwords in the MD5 password file." ++
    lineFeed ++ lineFeed ++
  text "positional arguments:" ++ lineFeed ++ entry username (text "User name (default: you)") ++
    lineFeed ++
  text "options:" ++ lineFeed ++ Flag.all.flatMap (fun f => entry (heading f) f.description) ++
    lineFeed ++
  examples.flatMap (· ++ lineFeed)

end CredentialStore.CommandLine.Usage
