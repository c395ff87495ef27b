import CredentialStore.Settings.Machine

namespace CredentialStore.Accounts

/-- The fields of every line of a table. -/
def entries (table : Text) : List (List Text) :=
  (table.splitOn (CodePoint.ofChar '\n')).map (Text.splitOn (CodePoint.ofChar ':'))

def number? (t : Text) : Option Nat :=
  if t.isEmpty then none
  else t.foldlM (fun n c => if 48 ≤ c.val ∧ c.val ≤ 57 then some (10 * n + (c.val - 48)) else none) 0

/-- Names of accounts by number; a line is a name, a mark, a number and more. -/
def accounts (table : Text) : List (Nat × Text) :=
  (entries table).filterMap fun
    | name :: _ :: number :: _ => (number? number).map (·, name)
    | _ => none

/-- Names of groups; a line begins with one. -/
def groups (table : Text) : List Text :=
  (entries table).filterMap fun
    | name :: _ :: _ => some name
    | _ => none

/-- The second field of the first entry that begins with a name. -/
def second? (name : Text) (table : Text) : Option Text :=
  (entries table).findSome? fun
    | first :: second :: _ => if first = name then some second else none
    | _ => none

/-- The number of the account that a process runs for: the first of the numbers in the entry for its
    accounts, which have tabs before them. -/
def realUser? (status : Text) : Option Nat := do
  let numbers ← second? (text "Uid") status
  let tab := CodePoint.ofChar '\t'
  number? ((numbers.dropWhile (· = tab)).takeWhile (· ≠ tab))

end CredentialStore.Accounts
