import CredentialStore.Text.Encoding

namespace CredentialStore

/-- A secret while it is held in the clear. -/
structure Secret where
  octets : Bytes
  deriving DecidableEq, Repr

namespace Secret

/-- The secret of a text, where a surrogate may hold a byte; none when the text has no bytes. -/
def ofText? (t : Text) : Option Secret := t.toBytes?.map Secret.mk

def size (s : Secret) : Nat := s.octets.length

/-- What is left of a secret once it is wiped. -/
def wiped (s : Secret) : Secret := ⟨s.octets.map fun _ => 0⟩

/-- A secret as it may be shown: only its size is told. -/
def shown (s : Secret) : Text :=
  text "SecretBuffer(<" ++ Text.decimal s.size ++ text " bytes>)"

end Secret

end CredentialStore
