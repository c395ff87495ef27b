import CredentialStore.Text.Basic

namespace CredentialStore

namespace CodePoint

/-- The number as one octet, modulo 256. -/
def octet (n : Nat) : UInt8 := UInt8.ofNat n

/-- The octets of a code point in UTF-8, by the length of its number. -/
def utf8 (c : CodePoint) : Bytes :=
  let n := c.val
  if n < 0x80 then [octet n]
  else if n < 0x800 then [octet (0xC0 + n / 0x40), octet (0x80 + n % 0x40)]
  else if n < 0x10000 then
    [octet (0xE0 + n / 0x1000), octet (0x80 + n / 0x40 % 0x40), octet (0x80 + n % 0x40)]
  else
    [octet (0xF0 + n / 0x40000), octet (0x80 + n / 0x1000 % 0x40),
      octet (0x80 + n / 0x40 % 0x40), octet (0x80 + n % 0x40)]

/-- The octets of a code point that may stand in well-formed UTF-8: any but a surrogate. -/
def toUtf8? (c : CodePoint) : Option Bytes :=
  if c.isSurrogate then none else some c.utf8

/-- The surrogate that holds an octet no UTF-8 sequence takes. -/
def ofStrayOctet (b : UInt8) : CodePoint := Fin.ofNat 0x110000 (0xDC00 + b.toNat)

/-- The octet that a surrogate from U+DC80 to U+DCFF holds. -/
def strayOctet? (c : CodePoint) : Option UInt8 :=
  if 0xDC80 ≤ c.val ∧ c.val ≤ 0xDCFF then some (octet (c.val - 0xDC00)) else none

/-- The octets of a code point, where a surrogate that holds an octet gives that octet. -/
def toBytes? (c : CodePoint) : Option Bytes :=
  match c.strayOctet? with
  | some b => some [b]
  | none => c.toUtf8?

end CodePoint

namespace Text

/-- Well-formed UTF-8 of a text; none when it holds any surrogate. -/
def toUtf8? : Text → Option Bytes
  | [] => some []
  | c :: rest => do
    let head ← c.toUtf8?
    let tail ← toUtf8? rest
    pure (head ++ tail)

/-- The bytes of a text; none when it holds a surrogate that stands for no byte. -/
def toBytes? : Text → Option Bytes
  | [] => some []
  | c :: rest => do
    let head ← c.toBytes?
    let tail ← toBytes? rest
    pure (head ++ tail)

end Text

namespace Bytes

/-- An octet 10xxxxxx, which continues a sequence. -/
def isContinuation (b : UInt8) : Bool := 0x80 ≤ b && b ≤ 0xBF

/-- A first octet of a two-octet sequence; 0xC0 and 0xC1 would be overlong. -/
def startsPair (b : UInt8) : Bool := 0xC2 ≤ b && b ≤ 0xDF

/-- The first two octets of a three-octet sequence, neither overlong nor of a surrogate. -/
def startsTriple (b c : UInt8) : Bool :=
  if b = 0xE0 then 0xA0 ≤ c && c ≤ 0xBF
  else if b = 0xED then 0x80 ≤ c && c ≤ 0x9F
  else 0xE1 ≤ b && b ≤ 0xEF && isContinuation c

/-- The first two octets of a four-octet sequence, neither overlong nor above U+10FFFF. -/
def startsQuadruple (b c : UInt8) : Bool :=
  if b = 0xF0 then 0x90 ≤ c && c ≤ 0xBF
  else if b = 0xF4 then 0x80 ≤ c && c ≤ 0x8F
  else 0xF1 ≤ b && b ≤ 0xF3 && isContinuation c

/-- The low six bits of a continuation octet. -/
def payload (b : UInt8) : Nat := b.toNat % 0x40

/-- The first code point of `b :: rest`, and how many octets of `rest` it takes. -/
def firstCodePoint (b : UInt8) (rest : Bytes) : CodePoint × Nat :=
  if b < 0x80 then (Fin.ofNat 0x110000 b.toNat, 0)
  else match rest with
    | [] => (CodePoint.ofStrayOctet b, 0)
    | c :: rest =>
      if startsPair b && isContinuation c then
        (Fin.ofNat 0x110000 (b.toNat % 0x20 * 0x40 + payload c), 1)
      else match rest with
        | [] => (CodePoint.ofStrayOctet b, 0)
        | d :: rest =>
          if startsTriple b c && isContinuation d then
            (Fin.ofNat 0x110000 (b.toNat % 0x10 * 0x1000 + payload c * 0x40 + payload d), 2)
          else match rest with
            | [] => (CodePoint.ofStrayOctet b, 0)
            | e :: _ =>
              if startsQuadruple b c && isContinuation d && isContinuation e then
                (Fin.ofNat 0x110000
                  (b.toNat % 0x08 * 0x40000 + payload c * 0x1000 + payload d * 0x40 + payload e), 3)
              else (CodePoint.ofStrayOctet b, 0)

/-- The text of bytes of which the first `taken` already belong to a code point. -/
def toTextAfter (taken : Nat) : Bytes → Text
  | [] => []
  | b :: rest =>
    match taken with
    | n + 1 => toTextAfter n rest
    | 0 =>
      let first := firstCodePoint b rest
      first.1 :: toTextAfter first.2 rest

/-- The text of bytes: well-formed sequences decoded, every other octet held as a surrogate. -/
def toText (b : Bytes) : Text := toTextAfter 0 b

end Bytes

end CredentialStore
