import CredentialStore.Text.Basic

namespace CredentialStore.Log

/-- A value of a log line. -/
inductive Value
  | null
  | boolean (b : Bool)
  | integer (n : Int)
  | string (t : Text)
  | list (items : List Value)
  /-- Values under names, in order. -/
  | object (members : List (Text × Value))
  deriving Inhabited

/-- The fields of a line in the order in which they are written. -/
abbrev Fields := List (Text × Value)

namespace Value

mutual

def decEq : (a b : Value) → Decidable (a = b)
  | null, b => match b with
    | null => isTrue rfl
    | boolean _ | integer _ | string _ | list _ | object _ => isFalse nofun
  | boolean x, b => match b with
    | boolean y => decidable_of_iff (x = y) (by simp)
    | null | integer _ | string _ | list _ | object _ => isFalse nofun
  | integer x, b => match b with
    | integer y => decidable_of_iff (x = y) (by simp)
    | null | boolean _ | string _ | list _ | object _ => isFalse nofun
  | string x, b => match b with
    | string y => decidable_of_iff (x = y) (by simp)
    | null | boolean _ | integer _ | list _ | object _ => isFalse nofun
  | list xs, b => match b with
    | list ys => have := decEqItems xs ys; decidable_of_iff (xs = ys) (by simp)
    | null | boolean _ | integer _ | string _ | object _ => isFalse nofun
  | object xs, b => match b with
    | object ys => have := decEqMembers xs ys; decidable_of_iff (xs = ys) (by simp)
    | null | boolean _ | integer _ | string _ | list _ => isFalse nofun

/-- Decides whether two lists of values are equal. -/
def decEqItems : (a b : List Value) → Decidable (a = b)
  | [], [] => isTrue rfl
  | [], _ :: _ | _ :: _, [] => isFalse nofun
  | v :: a, w :: b =>
    have := decEq v w
    have := decEqItems a b
    decidable_of_iff (v = w ∧ a = b) (by simp)

/-- Decides whether two lists of named values are equal. -/
def decEqMembers : (a b : Fields) → Decidable (a = b)
  | [], [] => isTrue rfl
  | [], _ :: _ | _ :: _, [] => isFalse nofun
  | (name, v) :: a, (other, w) :: b =>
    have := decEq v w
    have := decEqMembers a b
    decidable_of_iff ((name = other ∧ v = w) ∧ a = b) (by simp)

end

instance : DecidableEq Value := decEq

end Value

namespace Fields

/-- Sets a field: a name that is there keeps its place, a new one comes last. -/
def set (name : Text) (v : Value) : Fields → Fields
  | [] => [(name, v)]
  | f :: rest => if f.1 = name then (name, v) :: rest else f :: set name v rest

def update (fields changes : Fields) : Fields :=
  changes.foldl (fun fields change => set change.1 change.2 fields) fields

def without (name : Text) (fields : Fields) : Fields := fields.filter fun f => f.1 ≠ name

end Fields

end CredentialStore.Log
