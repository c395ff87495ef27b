import CredentialStore.Text.Hexadecimal

namespace CredentialStore.Log.TransactionId

/-- The name drawn from a number, of which 122 bits count. The thirteenth digit is 4 and the
    seventeenth is 8, 9, a or b. -/
def fresh (drawn : Nat) : Text :=
  let low := drawn % Nat.pow 2 62
  let middle := drawn / Nat.pow 2 62 % Nat.pow 2 12
  let high := drawn / Nat.pow 2 74 % Nat.pow 2 48
  Text.hex 32 (high * Nat.pow 2 80 + 4 * Nat.pow 2 76 + middle * Nat.pow 2 64 + 2 * Nat.pow 2 62 + low)

/-- The given name, or a fresh one. -/
def orFresh (given : Option Text) (drawn : Nat) : Text := given.getD (fresh drawn)

end CredentialStore.Log.TransactionId
