import CredentialStore.Digest.MD5
import CredentialStore.Text.Encoding
import CredentialStore.Text.Hexadecimal
import CredentialStore.Text.Numeral

namespace CredentialStore

/-- A value that a caller holds either as text or as bytes. -/
inductive TextOrBytes
  | text (value : Text)
  | bytes (value : Bytes)
  deriving DecidableEq, Repr

namespace TextOrBytes

/-- Well-formed UTF-8 of a text; bytes are kept. None when the text holds a surrogate. -/
def utf8? : TextOrBytes → Option Bytes
  | text value => value.toUtf8?
  | bytes value => some value

/-- The bytes of a text, where a surrogate may hold a byte; bytes are kept. -/
def bytes? : TextOrBytes → Option Bytes
  | text value => value.toBytes?
  | bytes value => some value

end TextOrBytes

namespace Token

/-- The octet between the parts of a message and of a record. -/
def colon : UInt8 := 0x3A

def length : Nat := 32

/-- The realm that old installations put into every message, whatever the realm of the record. -/
def legacyRealm : Text := CredentialStore.text "CUPS"

/-- The message whose digest is the token; none when the identity or the realm has no bytes. -/
def message? (identity realm : Text) (secret : Bytes) : Option Bytes := do
  let identity ← identity.toBytes?
  let realm ← realm.toBytes?
  pure (identity ++ colon :: (realm ++ colon :: secret))

/-- The token of an identity, a realm and a secret. -/
def of? (identity realm : Text) (secret : Bytes) : Option Text :=
  (message? identity realm secret).map fun message => Text.ofOctets (MD5.digest message)

/-- The token of a secret that is given as text or as bytes; a text secret must be proper UTF-8. -/
def ofSecret? (identity realm : Text) (secret : TextOrBytes) : Option Text := do
  of? identity realm (← secret.utf8?)

/-- Whether two tokens have the same bytes; none when one of them has no bytes. -/
def same? (computed stored : TextOrBytes) : Option Bool := do
  pure ((← computed.bytes?) == (← stored.bytes?))

/-- Whether a text has the length of a token and reads as a hexadecimal numeral. -/
def isPlausible (t : Text) : Bool :=
  t.length == length && (Numeral.toInt? .hexadecimal t).isSome

theorem length_of? {identity realm token : Text} {secret : Bytes}
    (h : of? identity realm secret = some token) : token.length = length := by
  obtain ⟨message, _, rfl⟩ := Option.map_eq_some_iff.1 h
  rw [Text.length_ofOctets, MD5.length_digest]
  rfl

end Token

end CredentialStore
