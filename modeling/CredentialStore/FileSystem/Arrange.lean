import CredentialStore.FileSystem.Calls

namespace CredentialStore.FileSystem

/-- A file system with nothing but directories directly under the root. -/
def withDirectories (names : List Bytes) (umask : Nat) : FileSystem where
  entries := names.map fun name => ([name], .directory)
  files := []
  umask

/-- A change from outside. What it did before it failed stays done. -/
abbrev Arrangement := ExceptT Failure (StateM FileSystem)

namespace Arrangement

def makeOne (path : Text) : Arrangement Unit := do
  let fs ← get
  let there ← fs.locate path
  match fs.entry? there with
  | some _ => throw (.numbered .alreadyExists)
  | none => set (fs.bind there .directory)

/-- Lets a failure of the file system pass if a path leads to a directory nevertheless. -/
def orDirectory (path : Text) (make : Arrangement Unit) : Arrangement Unit :=
  tryCatch make fun
    | .system e => do if !(← get).isDirectory path then throw (.system e)
    | failure => throw failure

/-- Makes a directory after those on the way to it that lead to nothing. The names of its path are given
    from the last to the first. Whether the directory itself may be there already is for the caller to
    say. -/
def makeDirectories (mayExist : Bool) : List Text → Arrangement Unit
  | [] => pure ()
  | name :: way => do
    let path := Text.joined (text "/") (name :: way).reverse
    let missing := !way.isEmpty && ((← get).entryAt? (Text.joined (text "/") way.reverse)).isNone
    if missing then
      tryCatch (makeDirectories mayExist way) fun
        | .system (.numbered .alreadyExists) => pure ()
        | failure => throw failure
    if missing && name = dot then pure ()
    else if mayExist then orDirectory path (makeOne path)
    else makeOne path

/-- The names of a path that are not empty, from the last to the first. -/
def namesBackward (path : Text) : List Text :=
  ((path.splitOn (CodePoint.ofChar '/')).filter fun name => !name.isEmpty).reverse

/-- The path without its last name, which is empty after a slash. -/
def holder (path : Text) : Text := (path.reverse.dropWhile (· ≠ CodePoint.ofChar '/')).reverse

/-- Puts a new file at a path, in place of the one that is there. -/
def put (path : Text) (file : File) : Arrangement Unit := do
  makeDirectories true (namesBackward (holder path))
  let fs ← get
  let there ← fs.locate path
  match fs.entry? there with
  | some .directory => throw (.numbered .isDirectory)
  | _ => set (fs.bindNew there file)

def makeDirectory (path : Text) : Arrangement Unit := makeDirectories false (namesBackward path)

/-- Removes a file, or empties a directory and then removes it. A directory that is called by one dot is
    emptied but stays, and one that was reached through what was in it cannot be found again. -/
def remove (path : Text) : Arrangement Unit := do
  let fs ← get
  if fs.isDirectory path then
    let there ← fs.locate path
    let emptied := fs.emptied there
    set emptied
    let there ← emptied.locate path
    if (namesBackward path).head? = some dot then throw (.numbered .invalidArgument)
    set (emptied.unbind there)
  else set (← fs.unlink path)

end Arrangement

/-- What lies below a location, with its names from there on and, for a file, its contents. -/
def below (fs : FileSystem) (top : Location) : List (Location × Option File) :=
  (fs.entries.filter fun e => top.isPrefixOf e.1 && e.1 != top).map fun e =>
    (e.1.drop top.length,
      match e.2 with
      | .file id => fs.file? id
      | .directory => none)

end CredentialStore.FileSystem
