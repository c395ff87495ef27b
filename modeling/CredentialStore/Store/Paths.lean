import CredentialStore.Text.Basic

namespace CredentialStore

/-- The file of the records, the generation before it, and the file that becomes the next one. They lie in one
    directory, so that the backup can be a hard link and the commit a rename. -/
structure StorePaths where
  primary : Text
  backup : Text
  staging : Text
  deriving DecidableEq, Repr

namespace StorePaths

/-- The name of the file of the records. -/
def primaryName : Text := text "passwd.md5"

def backupName : Text := text "passwd.old"

/-- The name of the file under construction. -/
def stagingName : Text := text "passwd.new"

/-- A name in a directory: a slash between them unless the directory is empty or ends in one. -/
def within (directory name : Text) : Text :=
  match directory.getLast? with
  | none => name
  | some last => if last = CodePoint.ofChar '/' then directory ++ name
    else directory ++ CodePoint.ofChar '/' :: name

/-- The files of the store in a directory. -/
def locate (directory : Text) : StorePaths where
  primary := within directory primaryName
  backup := within directory backupName
  staging := within directory stagingName

end StorePaths

end CredentialStore
