namespace CredentialStore

/-- A code point from U+0000 to U+10FFFF, surrogates included. -/
abbrev CodePoint := Fin 0x110000

/-- Text as a store sees it. Undecodable bytes live in it as surrogates that stand alone, which `String` would
    lose. -/
abbrev Text := List CodePoint

/-- A sequence of octets. -/
abbrev Bytes := List UInt8

instance neZeroCodePoint : @NeZero Nat (@Zero.ofOfNat0 Nat (instOfNatNat 0)) 0x110000 := ⟨by decide⟩

/-- Code points are compared by their numbers. -/
instance lawfulCodePoint : LawfulBEq CodePoint := inferInstance

/-- Texts are compared code point by code point. -/
instance lawfulText : LawfulBEq Text := inferInstance

namespace CodePoint

def ofChar (c : Char) : CodePoint :=
  ⟨c.toNat, by
    have valid := c.valid
    simp only [Char.toNat]
    rcases valid with low | ⟨_, high⟩ <;> omega⟩

/-- A surrogate, U+D800 to U+DFFF, is no character. -/
def isSurrogate (c : CodePoint) : Bool := 0xD800 ≤ c.val && c.val ≤ 0xDFFF

/-- The character of a code point that is no surrogate. -/
def toChar? (c : CodePoint) : Option Char :=
  if c.isSurrogate then none else some (Char.ofNat c.val)

end CodePoint

def text (s : String) : Text := s.toList.map CodePoint.ofChar

namespace Text

/-- The string of a text, unless it holds a surrogate. -/
def toString? (t : Text) : Option String :=
  (t.mapM CodePoint.toChar?).map String.ofList

def decimal (n : Nat) : Text := (Nat.toDigits 10 n).map CodePoint.ofChar

/-- An integer in decimal digits, with a minus sign when negative. -/
def signedDecimal : Int → Text
  | .ofNat n => decimal n
  | .negSucc n => text "-" ++ decimal (n + 1)

/-- A natural number in decimal, filled with zeros on the left up to a width. -/
def decimalPadded (width n : Nat) : Text :=
  let digits := decimal n
  List.replicate (width - digits.length) (CodePoint.ofChar '0') ++ digits

/-- The pieces of a text between the occurrences of a separator; there is always at least one. -/
def splitOn (separator : CodePoint) : Text → List Text
  | [] => [[]]
  | c :: rest =>
    if c = separator then [] :: splitOn separator rest
    else match splitOn separator rest with
      | [] => [[c]]
      | piece :: pieces => (c :: piece) :: pieces

/-- Texts joined with a separator between each two. -/
def joined (separator : Text) : List Text → Text
  | [] => []
  | [t] => t
  | t :: rest => t ++ separator ++ joined separator rest

/-- Letters A to Z turned into a to z; every other code point is kept. -/
def asciiLower (t : Text) : Text :=
  t.map fun c => if 65 ≤ c.val ∧ c.val ≤ 90 then Fin.ofNat 0x110000 (c.val + 32) else c

end Text

end CredentialStore
