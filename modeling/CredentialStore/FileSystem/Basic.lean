import CredentialStore.Text.Encoding

namespace CredentialStore

abbrev FileId := Nat

/-- Where something lies: the names on the way from the root. -/
abbrev Location := List Bytes

/-- The contents and the permissions of a file. -/
structure File where
  data : Bytes
  mode : Nat
  deriving DecidableEq, Repr

/-- Whether the owner of a file may write to it. -/
def File.isWritable (file : File) : Bool := file.mode.testBit 7

inductive Entry
  | file (id : FileId)
  | directory
  deriving DecidableEq, Repr

/-- Directories, files and hard links: two names of one number are one file. A file keeps its contents after
    its last name is gone, so that whoever opened it can go on. -/
structure FileSystem where
  entries : List (Location × Entry)
  /-- The files by number, those without a name included. -/
  files : List File
  /-- Permissions that a new file does not get. -/
  umask : Nat
  deriving DecidableEq, Repr

namespace FileSystem

/-- What lies at a location; the root is a directory. -/
def entry? (fs : FileSystem) (there : Location) : Option Entry :=
  if there.isEmpty then some .directory else fs.entries.lookup there

def file? (fs : FileSystem) (id : FileId) : Option File := fs.files[id]?

def fileAt? (fs : FileSystem) (there : Location) : Option File :=
  match fs.entry? there with
  | some (.file id) => fs.file? id
  | _ => none

def unbind (fs : FileSystem) (there : Location) : FileSystem :=
  { fs with entries := fs.entries.filter fun e => e.1 ≠ there }

/-- Lets a location lead to an entry and to nothing else. -/
def bind (fs : FileSystem) (there : Location) (entry : Entry) : FileSystem :=
  { fs with entries := (there, entry) :: (fs.unbind there).entries }

def bindNew (fs : FileSystem) (there : Location) (file : File) : FileSystem :=
  { fs with files := fs.files ++ [file] }.bind there (.file fs.files.length)

/-- Changes a file, under all its names. -/
def change (fs : FileSystem) (id : FileId) (f : File → File) : FileSystem :=
  { fs with files := fs.files.modify id f }

/-- Whether something lies inside the directory at a location. -/
def hasInside (fs : FileSystem) (there : Location) : Bool :=
  fs.entries.any fun e => there.isPrefixOf e.1 && e.1 != there

/-- Removes everything inside a location, which stays. -/
def emptied (fs : FileSystem) (there : Location) : FileSystem :=
  { fs with entries := fs.entries.filter fun e => !(there.isPrefixOf e.1 && e.1 != there) }

/-- Moves a location and everything inside it, over what lies at the target. -/
def move (fs : FileSystem) (source target : Location) : FileSystem :=
  { fs with entries := (fs.entries.filter fun e => e.1 ≠ target).map fun e =>
      if source.isPrefixOf e.1 then (target ++ e.1.drop source.length, e.2) else e }

end FileSystem

end CredentialStore
