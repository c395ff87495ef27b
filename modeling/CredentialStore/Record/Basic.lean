import CredentialStore.Digest.Token

namespace CredentialStore

/-- One credential: whose it is and the token of its secret. -/
structure Record where
  identity : Text
  realm : Text
  token : Text
  deriving DecidableEq, Repr

namespace Record

/-- An octet that ends a line: carriage return or line feed. -/
def isLineEnd (b : UInt8) : Bool := b = 0x0D || b = 0x0A

/-- An octet of ASCII white space. -/
def isSpace (b : UInt8) : Bool := b = 0x20 || (0x09 ≤ b && b ≤ 0x0D)

/-- Octets without those at the end that satisfy `drop`. -/
def dropEnd (drop : UInt8 → Bool) (b : Bytes) : Bytes := (b.reverse.dropWhile drop).reverse

/-- Octets without the white space at both ends. -/
def stripped (b : Bytes) : Bytes := dropEnd isSpace (b.dropWhile isSpace)

/-- The octets between colons; there is always at least one piece. -/
def fields : Bytes → List Bytes
  | [] => [[]]
  | b :: rest =>
    if b = Token.colon then [] :: fields rest
    else match fields rest with
      | [] => [[b]]
      | piece :: pieces => (b :: piece) :: pieces

/-- The record of a line: three fields, none empty, the last without the white space around it. The
    carriage returns and line feeds at the end of the line belong to no field. -/
def parse (line : Bytes) : Option Record :=
  match fields (dropEnd isLineEnd line) with
  | [identity, realm, token] =>
    let token := stripped token
    if identity.isEmpty || realm.isEmpty || token.isEmpty then none
    else some ⟨Bytes.toText identity, Bytes.toText realm, Bytes.toText token⟩
  | _ => none

/-- The line of a record; none when one of its fields has no bytes. -/
def toLine? (r : Record) : Option Bytes := do
  let identity ← r.identity.toBytes?
  let realm ← r.realm.toBytes?
  let token ← r.token.toBytes?
  pure (identity ++ Token.colon :: (realm ++ Token.colon :: (token ++ [0x0A])))

/-- Whether a record is for an identity and a realm. -/
def isFor (r : Record) (identity realm : Text) : Bool := r.identity == identity && r.realm == realm

end Record

end CredentialStore
