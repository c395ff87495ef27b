import CredentialStore.Proofs.Record.Line
import CredentialStore.Settings.Basic

namespace CredentialStore

namespace Token

/-- The octets before the first colon can be told from the whole. -/
theorem append_colon_inj {a b : Bytes} (ha : colon ∉ a) (hb : colon ∉ b) {rest rest' : Bytes} :
    a ++ colon :: rest = b ++ colon :: rest' ↔ a = b ∧ rest = rest' := by
  constructor
  · intro heq
    have hfields := congrArg Record.fields heq
    rw [Record.fields_append ha, Record.fields_append hb] at hfields
    obtain rfl := (List.cons.inj hfields).1
    exact ⟨rfl, (List.cons.inj (List.append_cancel_left heq)).2⟩
  · rintro ⟨rfl, rfl⟩
    rfl

theorem message?_eq {identity realm : Text} {x y : Bytes} (hidentity : identity.toBytes? = some x)
    (hrealm : realm.toBytes? = some y) (secret : Bytes) :
    message? identity realm secret = some (x ++ colon :: (y ++ colon :: secret)) := by
  rw [message?, hidentity, hrealm]
  rfl

end Token

namespace Settings

/-- The message that is digested for a record of an identity and a realm; none when one of its parts has no
    bytes. -/
def message? (s : Settings) (identity realm : Text) (secret : TextOrBytes) : Option Bytes :=
  secret.utf8?.bind (Token.message? identity (s.realmForDigest realm))

/-- A token is the digest of its message. -/
theorem ofSecret?_eq_map_message? (s : Settings) (identity realm : Text) (secret : TextOrBytes) :
    Token.ofSecret? identity (s.realmForDigest realm) secret =
      (s.message? identity realm secret).map fun message => Text.ofOctets (MD5.digest message) := by
  rw [message?, Option.map_bind]
  rfl

/-- Whether a message is what is digested, and its digest the token. -/
structure Digests (s : Settings) (identity realm : Text) (secret : TextOrBytes) (message : Bytes) : Prop where
  message_eq : s.message? identity realm secret = some message
  token_eq : Token.ofSecret? identity (s.realmForDigest realm) secret =
    some (Text.ofOctets (MD5.digest message))

/-- What a token can be made for: an identity and a realm that are valid, and a secret, all of which have
    bytes. -/
structure Digestible (identity realm : Text) (secret : TextOrBytes) : Prop where
  identity_valid : Policy.validateField (text "username") identity = .ok ()
  realm_valid : Policy.validateField (text "group") realm = .ok ()
  identity_bytes : ∃ x, identity.toBytes? = some x
  realm_bytes : ∃ y, realm.toBytes? = some y
  secret_bytes : ∃ z, secret.utf8? = some z

/-- The parts of a message: the octets of an identity and of a realm that hold no colon, and any secret. -/
theorem Digestible.exists_bytes {identity realm : Text} {secret : TextOrBytes}
    (hdigestible : Digestible identity realm secret) :
    ∃ x y z, identity.toBytes? = some x ∧ realm.toBytes? = some y ∧ secret.utf8? = some z ∧
      Token.colon ∉ x ∧ Token.colon ∉ y := by
  obtain ⟨x, hx⟩ := hdigestible.identity_bytes
  obtain ⟨y, hy⟩ := hdigestible.realm_bytes
  obtain ⟨z, hz⟩ := hdigestible.secret_bytes
  obtain ⟨hidentity, hclear⟩ := Text.of_validateField hdigestible.identity_valid
  obtain ⟨hrealm, hclear'⟩ := Text.of_validateField hdigestible.realm_valid
  exact ⟨x, y, z, hx, hy, hz, (Text.isPiece_of_notMem hidentity hclear hx).colon_notMem,
    (Text.isPiece_of_notMem hrealm hclear' hy).colon_notMem⟩

variable {s : Settings} {identity identity' realm realm' : Text} {secret secret' : TextOrBytes}

theorem digests_append {x y z : Bytes} (hidentity : identity.toBytes? = some x)
    (hrealm : (s.realmForDigest realm).toBytes? = some y) (hsecret : secret.utf8? = some z) :
    s.Digests identity realm secret (x ++ Token.colon :: (y ++ Token.colon :: z)) := by
  have hmessage : s.message? identity realm secret = some (x ++ Token.colon :: (y ++ Token.colon :: z)) := by
    rw [message?, hsecret, Option.bind_some, Token.message?_eq hidentity hrealm]
  exact ⟨hmessage, by rw [ofSecret?_eq_map_message?, hmessage, Option.map_some]⟩

/-- No two accounts share a message: messages of the same settings are equal exactly where the bytes of the
    identities and of the secrets are and, unless the realm is configured, those of the realms. -/
theorem digests_eq_iff (hdigest : ∀ configured, s.digestRealm = some configured →
      ∃ y, configured.toBytes? = some y)
    (hdigestible : Digestible identity realm secret) (hdigestible' : Digestible identity' realm' secret') :
    ∃ m m', s.Digests identity realm secret m ∧ s.Digests identity' realm' secret' m' ∧
      (m = m' ↔ identity.toBytes? = identity'.toBytes? ∧ secret.utf8? = secret'.utf8? ∧
        (s.digestRealm = none → realm.toBytes? = realm'.toBytes?)) := by
  obtain ⟨x, y, z, hx, hy, hz, hcolon, hcolonRealm⟩ := hdigestible.exists_bytes
  obtain ⟨x', y', z', hx', hy', hz', hcolon', hcolonRealm'⟩ := hdigestible'.exists_bytes
  cases hrealm : s.digestRealm with
  | some configured =>
    obtain ⟨d, hd⟩ := hdigest configured hrealm
    have hfed : ∀ r, (s.realmForDigest r).toBytes? = some d := by
      intro r
      rw [realmForDigest, hrealm, Option.getD_some, hd]
    refine ⟨_, _, digests_append hx (hfed realm) hz, digests_append hx' (hfed realm') hz', ?_⟩
    rw [Token.append_colon_inj hcolon hcolon', List.append_cancel_left_eq, List.cons.injEq, hx, hx', hz, hz']
    simp
  | none =>
    have hfed : ∀ r, s.realmForDigest r = r := by
      intro r
      rw [realmForDigest, hrealm, Option.getD_none]
    refine ⟨_, _, digests_append hx ((congrArg _ (hfed realm)).trans hy) hz,
      digests_append hx' ((congrArg _ (hfed realm')).trans hy') hz', ?_⟩
    rw [Token.append_colon_inj hcolon hcolon', Token.append_colon_inj hcolonRealm hcolonRealm', hx, hx', hy,
      hy', hz, hz']
    simp [and_comm]

/-- Settings whose configured realm holds a colon and ends in one. -/
def colonSettings : Settings where
  serverRoot := text "/"
  user := text "op"
  defaultRealm := text "lp"
  digestRealm := some (text "a:b:")
  stagingMode := 0o660
  serverRoot_ne_nil := by decide
  user_ne_nil := by decide
  defaultRealm_ne_nil := by decide
  stagingMode_le := by decide

/-- Secrets that begin with colons are told apart by them. -/
theorem colonSettings_digests_ne :
    ∃ m m', colonSettings.Digests (text "al") (text "sys") (.text (text "::x1")) m ∧
      colonSettings.Digests (text "al") (text "lp") (.bytes [0x3A, 0x78, 0x31]) m' ∧ m ≠ m' := by
  have hconfigured : ∀ configured, colonSettings.digestRealm = some configured →
      ∃ y, configured.toBytes? = some y := by
    intro configured hconfigured
    cases hconfigured
    exact ⟨[0x61, 0x3A, 0x62, 0x3A], rfl⟩
  have hfirst : Digestible (text "al") (text "sys") (.text (text "::x1")) :=
    ⟨rfl, rfl, ⟨[0x61, 0x6C], rfl⟩, ⟨[0x73, 0x79, 0x73], rfl⟩, ⟨[0x3A, 0x3A, 0x78, 0x31], rfl⟩⟩
  have hsecond : Digestible (text "al") (text "lp") (.bytes [0x3A, 0x78, 0x31]) :=
    ⟨rfl, rfl, ⟨[0x61, 0x6C], rfl⟩, ⟨[0x6C, 0x70], rfl⟩, ⟨[0x3A, 0x78, 0x31], rfl⟩⟩
  obtain ⟨m, m', hm, hm', hiff⟩ := digests_eq_iff hconfigured hfirst hsecond
  refine ⟨m, m', hm, hm', fun heq => ?_⟩
  exact absurd (hiff.1 heq).2.1 (by decide)

end Settings

end CredentialStore
