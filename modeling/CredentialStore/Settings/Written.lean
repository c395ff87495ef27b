import CredentialStore.Text.Basic

namespace CredentialStore

/-- A value as it is written down. -/
inductive Written
  | null
  | boolean (b : Bool)
  | integer (n : Int)
  /-- The number `mantissa / 2 ^ halvings`, of double precision. -/
  | double (mantissa : Int) (halvings : Nat)
  /-- A number too great for double precision. -/
  | infinite
  | string (t : Text)
  /-- Several values. -/
  | collection (isEmpty : Bool)
  deriving DecidableEq, Repr

namespace Written

/-- Whether a value counts as nothing: no value, false, zero, the empty text, no values. -/
def isNothing : Written → Bool
  | null => true
  | boolean b => !b
  | integer n => n == 0
  | double mantissa _ => mantissa == 0
  | infinite => false
  | string t => t.isEmpty
  | collection isEmpty => isEmpty

/-- The greatest integer that is not above a number of double precision. -/
def floor (mantissa : Int) (halvings : Nat) : Int := mantissa / Nat.pow 2 halvings

/-- The integer that a number of double precision is, if it is one. -/
def whole? (mantissa : Int) (halvings : Nat) : Option Int :=
  if mantissa % Nat.pow 2 halvings = 0 then some (floor mantissa halvings) else none

/-- The first integer above those that a word of sixty-four bits holds. -/
def wordLimit : Int := 0x8000000000000000

/-- Whether a word of sixty-four bits holds an integer. -/
def fitsWord (n : Int) : Bool := -wordLimit ≤ n && n < wordLimit

/-- Whether an integer of double precision can be taken for a word. The least word itself cannot: at
    that size it stands for its neighbours as well. -/
def isWithinWords (n : Int) : Bool := -wordLimit < n && n < wordLimit

end Written

end CredentialStore
