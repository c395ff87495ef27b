import CredentialStore.Text.Basic

namespace CredentialStore.Text

/-- The digit of a number below sixteen. -/
def hexDigit (n : Nat) : CodePoint := CodePoint.ofChar (Nat.digitChar (n % 16))

/-- The last `width` hexadecimal digits of a number, zeros included. -/
def hex : (width : Nat) → Nat → Text
  | 0, _ => []
  | width + 1, n => hex width (n / 16) ++ [hexDigit n]

/-- Two hexadecimal digits for each octet. -/
def ofOctets (b : Bytes) : Text := b.flatMap fun octet => hex 2 octet.toNat

/-- Every number has exactly as many digits as asked for. -/
theorem length_hex (width n : Nat) : (hex width n).length = width := by
  induction width generalizing n with
  | zero => rfl
  | succ width ih => simp [hex, ih]

/-- Each octet takes two digits. -/
theorem length_ofOctets (b : Bytes) : (ofOctets b).length = 2 * b.length := by
  induction b with
  | nil => rfl
  | cons octet rest ih =>
    simp only [ofOctets, List.flatMap_cons, List.length_append, length_hex, List.length_cons] at *
    omega

end CredentialStore.Text
