import CredentialStore.Log.Value
import CredentialStore.Text.Hexadecimal

namespace CredentialStore.Log

namespace Json

def unitEscape (n : Nat) : Text := text "\\u" ++ Text.hex 4 n

/-- A code point inside a JSON string. One above U+FFFF is written as two units; a surrogate that
    stands alone is written as the unit it is. -/
def escape (c : CodePoint) : Text :=
  if c = CodePoint.ofChar '"' then text "\\\""
  else if c = CodePoint.ofChar '\\' then text "\\\\"
  else if c = CodePoint.ofChar '\n' then text "\\n"
  else if c = CodePoint.ofChar '\r' then text "\\r"
  else if c = CodePoint.ofChar '\t' then text "\\t"
  else if c.val = 0x08 then text "\\b"
  else if c.val = 0x0C then text "\\f"
  else if 0x20 ≤ c.val ∧ c.val ≤ 0x7E then [c]
  else if c.val < 0x10000 then unitEscape c.val
  else unitEscape (0xD800 + (c.val - 0x10000) / 0x400) ++
    unitEscape (0xDC00 + (c.val - 0x10000) % 0x400)

def string (t : Text) : Text := text "\"" ++ t.flatMap escape ++ text "\""

/-- How many decimal digits an integer may have that is to be written out. -/
def maximumDigits : Nat := 4300

/-- Whether an integer has few enough digits to be written out. -/
def isShort (n : Int) : Bool := n.natAbs < Nat.pow 10 maximumDigits

mutual

/-- Whether every integer in a value is short. -/
def isWritable : Value → Bool
  | .null | .boolean _ | .string _ => true
  | .integer n => isShort n
  | .list items => areWritable items
  | .object members => haveWritable members

def areWritable : List Value → Bool
  | [] => true
  | v :: rest => isWritable v && areWritable rest

/-- Whether every integer in the values of fields is short. -/
def haveWritable : Fields → Bool
  | [] => true
  | (_, v) :: rest => isWritable v && haveWritable rest

end

mutual

/-- A value as JSON, however many digits its integers have. -/
def value : Value → Text
  | .null => text "null"
  | .boolean true => text "true"
  | .boolean false => text "false"
  | .integer n => Text.signedDecimal n
  | .string t => string t
  | .list items => text "[" ++ Text.joined (text ", ") (values items) ++ text "]"
  | .object members => text "\x7b" ++ Text.joined (text ", ") (fields members) ++ text "\x7d"

def values : List Value → List Text
  | [] => []
  | v :: rest => value v :: values rest

/-- Fields as the members of a JSON object: a name, a colon and a value. -/
def fields : Fields → List Text
  | [] => []
  | (name, v) :: rest => (string name ++ text ": " ++ value v) :: fields rest

end

/-- Fields as a JSON object on one line, unless an integer has too many digits. -/
def object? (members : Fields) : Option Text :=
  if isWritable (.object members) then some (value (.object members)) else none

end Json

/-- A value is shown as its JSON. -/
instance : Repr Value := ⟨fun v _ => repr (Json.value v)⟩

end CredentialStore.Log
