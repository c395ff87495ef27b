import CredentialStore.Text.Properties

namespace CredentialStore

/-- The bases in which integers are read. -/
inductive Radix
  | octal
  | hexadecimal
  deriving DecidableEq, Repr

namespace Radix

def size : Radix → Nat
  | octal => 8
  | hexadecimal => 16

/-- The letters that may follow a leading zero to name the base. -/
def marks : Radix → List CodePoint
  | octal => text "oO"
  | hexadecimal => text "xX"

end Radix

namespace Numeral

/-- Reads white space as a space and a digit of any script as its ASCII digit. -/
def plain (c : CodePoint) : CodePoint :=
  if c.isWideSpace then CodePoint.ofChar ' '
  else match c.digit? with
    | some d => Fin.ofNat 0x110000 (0x30 + d)
    | none => c

/-- The value of a digit 0 to 9, a to f or A to F. -/
def digitValue? (c : CodePoint) : Option Nat :=
  if 0x30 ≤ c.val ∧ c.val ≤ 0x39 then some (c.val - 0x30)
  else if 0x41 ≤ c.val ∧ c.val ≤ 0x46 then some (c.val - 0x41 + 10)
  else if 0x61 ≤ c.val ∧ c.val ≤ 0x66 then some (c.val - 0x61 + 10)
  else none

/-- The value of digits that follow a number `value`. An underscore must stand between two digits, so
    one is allowed only when `joinable`, that is, right after a digit. -/
def digitsAfter? (radix value : Nat) (joinable : Bool) : Text → Option Nat
  | [] => if joinable then some value else none
  | c :: rest =>
    if c = CodePoint.ofChar '_' then
      if joinable then digitsAfter? radix value false rest else none
    else match digitValue? c with
      | some d => if d < radix then digitsAfter? radix (value * radix + d) true rest else none
      | none => none

/-- Drops the mark of the base and one underscore after it. -/
def withoutMark (radix : Radix) : Text → Text
  | first :: mark :: rest =>
    if first = CodePoint.ofChar '0' ∧ mark ∈ radix.marks then
      match rest with
      | c :: digits => if c = CodePoint.ofChar '_' then digits else rest
      | [] => rest
    else first :: mark :: rest
  | t => t

/-- The natural number of a numeral without sign and surrounding space. -/
def unsigned? (radix : Radix) (t : Text) : Option Nat :=
  digitsAfter? radix.size 0 false (withoutMark radix t)

/-- A text without the ASCII white space at both ends. -/
def trimmed (t : Text) : Text :=
  ((t.dropWhile CodePoint.isAsciiSpace).reverse.dropWhile CodePoint.isAsciiSpace).reverse

/-- The integer that a text writes in the given base. -/
def toInt? (radix : Radix) (t : Text) : Option Int :=
  match trimmed (t.map plain) with
  | [] => none
  | c :: rest =>
    if c = CodePoint.ofChar '-' then (unsigned? radix rest).map fun n => -(n : Int)
    else if c = CodePoint.ofChar '+' then (unsigned? radix rest).map Int.ofNat
    else (unsigned? radix (c :: rest)).map Int.ofNat

end Numeral

end CredentialStore
