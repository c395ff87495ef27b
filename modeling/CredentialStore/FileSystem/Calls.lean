import CredentialStore.FileSystem.Path
import CredentialStore.Text.Quoted

namespace CredentialStore.FileSystem

def create (fs : FileSystem) (path : Text) (mode : Nat) : Except Failure (FileId × FileSystem) := do
  let there ← fs.locate path
  match fs.entry? there with
  | some _ => throw (.numbered .alreadyExists)
  | none =>
    let mode := mode &&& (0o7777 ^^^ (fs.umask &&& 0o7777))
    pure (fs.files.length, fs.bindNew there ⟨[], mode⟩)

/-- The file at a path, for reading. -/
def openFile (fs : FileSystem) (path : Text) : Except Failure FileId := do
  let there ← fs.locate path
  match fs.entry? there with
  | none => throw (.numbered .notFound)
  | some .directory => throw (.numbered .isDirectory)
  | some (.file id) => pure id

/-- Opens the file at a location to add to it, and creates one where nothing lies. -/
def openToAppend (fs : FileSystem) (there : Location) : Except Failure (FileId × FileSystem) :=
  match fs.entry? there, fs.entry? there.dropLast with
  | some (.file id), _ => pure (id, fs)
  | some .directory, _ => throw (.numbered .isDirectory)
  | none, some .directory =>
    pure (fs.files.length, fs.bindNew there ⟨[], 0o666 &&& (0o7777 ^^^ (fs.umask &&& 0o7777))⟩)
  | none, some (.file _) => throw (.numbered .notDirectory)
  | none, none => throw (.numbered .notFound)

def dataOf (fs : FileSystem) (id : FileId) : Bytes := ((fs.file? id).map File.data).getD []

/-- Adds octets at the end of a file. -/
def append (fs : FileSystem) (id : FileId) (octets : Bytes) : FileSystem :=
  fs.change id fun file => { file with data := file.data ++ octets }

/-- Octets up to the first line feed, which is included; all of them where there is none. -/
def firstLine : Bytes → Bytes
  | [] => []
  | b :: rest => if b = 0x0A then [b] else b :: firstLine rest

/-- The line that begins at an offset of a file, as far as it lies before another offset; it is empty
    only at that offset or at the end of the file. -/
def lineAt (fs : FileSystem) (id : FileId) (start stop : Nat) : Bytes :=
  (firstLine ((fs.dataOf id).drop start)).take (stop - start)

def unlink (fs : FileSystem) (path : Text) : Except Failure FileSystem := do
  let there ← fs.locate path
  match fs.entry? there with
  | none => throw (.numbered .notFound)
  | some .directory => throw (.numbered .isDirectory)
  | some (.file _) => pure (fs.unbind there)

/-- Gives a file a second name where nothing lies. -/
def link (fs : FileSystem) (source target : Text) : Except Failure FileSystem := do
  let old ← fs.locate source
  match fs.entry? old with
  | none => throw (.numbered .notFound)
  | some entry =>
    let new ← fs.locate target
    match fs.entry? new, entry with
    | some _, _ => throw (.numbered .alreadyExists)
    | none, .directory => throw (.numbered .notPermitted)
    | none, .file id => pure (fs.bind new (.file id))

/-- Moves what lies at one path to another, in place of the file that lies there. -/
def rename (fs : FileSystem) (source target : Text) : Except Failure FileSystem := do
  let old ← fs.locate source
  let new ← fs.locate target
  match fs.entry? old, fs.entry? new with
  | none, _ => throw (.numbered .notFound)
  | some (.file a), some (.file b) => pure (if a = b then fs else fs.move old new)
  | some (.file _), some .directory => throw (.numbered .isDirectory)
  | some .directory, some (.file _) => throw (.numbered .notDirectory)
  | some .directory, some .directory =>
    if old = new then pure fs
    else if fs.hasInside new then throw (.numbered .notEmpty)
    else pure (fs.move old new)
  | some _, none => pure (fs.move old new)

/-- The path of the copy of a file: inside the target where that is a directory. -/
def copyTarget (fs : FileSystem) (source target : Text) : Text :=
  if fs.isDirectory target then
    target ++ CodePoint.ofChar '/' :: (source.reverse.takeWhile (· ≠ CodePoint.ofChar '/')).reverse
  else target

/-- The number of the file at a path. -/
def fileId? (fs : FileSystem) (path : Text) : Option FileId :=
  match fs.entryAt? path with
  | some (.file id) => some id
  | _ => none

/-- The complaint that a file would be copied onto itself. -/
def sameFile (source target : Text) : Text :=
  source.quoted ++ text " and " ++ target.quoted ++ text " are the same file"

/-- Copies the data and the permissions of a file. A file that lies at the target keeps its number, and
    its owner must be allowed to write to it. -/
def copy (fs : FileSystem) (source target : Text) : Except Failure FileSystem := do
  let target := fs.copyTarget source target
  match fs.fileId? source, fs.fileId? target with
  | some a, some b => if a = b then throw (.system (.unnumbered (sameFile source target)))
  | _, _ => pure ()
  let id ← fs.openFile source
  let contents := (fs.file? id).getD ⟨[], 0⟩
  let new ← fs.locate target
  match fs.entry? new with
  | none => pure (fs.bindNew new contents)
  | some .directory => throw (.numbered .isDirectory)
  | some (.file other) =>
    if (fs.file? other).any File.isWritable then pure (fs.change other fun _ => contents)
    else throw (.numbered .accessDenied)

/-- Whether something lies at a path. The path is tidied first. One that leads nowhere is no error, one
    that is too long is. -/
def probe (fs : FileSystem) (path : Text) : Except Failure (Option Entry) :=
  match fs.locate (tidy path) with
  | .ok there => pure (fs.entry? there)
  | .error (.system (.numbered .nameTooLong)) => throw (.numbered .nameTooLong)
  | .error _ => pure none

end CredentialStore.FileSystem
