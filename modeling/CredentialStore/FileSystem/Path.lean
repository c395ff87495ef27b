import CredentialStore.Error.Failure
import CredentialStore.FileSystem.Basic

namespace CredentialStore.FileSystem

/-- The octet between the names of a path. -/
def slash : UInt8 := 0x2F

/-- How many octets a name may have. -/
def maximumName : Nat := 255

/-- How many octets a path may have, the zero that ends it included. -/
def maximumPath : Nat := 4096

/-- The names of a path; there is always at least one, and it may be empty. -/
def names : Bytes → List Bytes
  | [] => [[]]
  | b :: rest =>
    if b = slash then [] :: names rest
    else match names rest with
      | [] => [[b]]
      | name :: others => (b :: name) :: others

/-- Follows names from a location. The empty name and one dot stay, two dots go up. -/
def walk (fs : FileSystem) : Location → List Bytes → Except SystemError Location
  | here, [] => pure here
  | here, name :: rest =>
    match fs.entry? here with
    | none => throw (.numbered .notFound)
    | some (.file _) => throw (.numbered .notDirectory)
    | some .directory =>
      if name = [] ∨ name = [0x2E] then walk fs here rest
      else if name = [0x2E, 0x2E] then walk fs here.dropLast rest
      else if maximumName < name.length then throw (.numbered .nameTooLong)
      else walk fs (here ++ [name]) rest

/-- The location that a path leads to; there need be nothing at it. -/
def locate (fs : FileSystem) (path : Text) : Except Failure Location :=
  match path.toBytes? with
  | none => throw .unencodable
  | some octets =>
    if 0 ∈ octets then throw .nulInPath
    else if octets.isEmpty then throw (.numbered .notFound)
    else if maximumPath ≤ octets.length then throw (.numbered .nameTooLong)
    else match walk fs [] (names octets) with
      | .ok there => pure there
      | .error e => throw (.system e)

/-- What a path leads to, if it leads anywhere. -/
def entryAt? (fs : FileSystem) (path : Text) : Option Entry :=
  match fs.locate path with
  | .ok there => fs.entry? there
  | .error _ => none

/-- Whether a path leads to a directory. -/
def isDirectory (fs : FileSystem) (path : Text) : Bool := fs.entryAt? path = some .directory

/-- The name that stays where it is. -/
def dot : Text := text "."

/-- The names of a path that go somewhere: neither empty nor one dot. Two dots cannot be left out, since
    the directory before them may be missing. -/
def movingNames (path : Text) : List Text :=
  (path.splitOn (CodePoint.ofChar '/')).filter fun name => !name.isEmpty && name ≠ dot

/-- A path with nothing in it that stays where it is; the way is the same and may be shorter. -/
def tidy (path : Text) : Text :=
  let relative := Text.joined (text "/") (movingNames path)
  if path.head? = some (CodePoint.ofChar '/') then text "/" ++ relative
  else if relative.isEmpty then dot
  else relative

end CredentialStore.FileSystem
