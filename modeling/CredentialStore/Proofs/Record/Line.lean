import CredentialStore.Policy
import CredentialStore.Proofs.Digest.Token
import CredentialStore.Proofs.Record.Grammar
import CredentialStore.Proofs.Store.Lines

namespace CredentialStore

namespace Record

/-- Octets that can be a field of a line. -/
structure IsPiece (b : Bytes) : Prop where
  ne_nil : b ≠ []
  colon_notMem : Token.colon ∉ b
  lineFeed_notMem : Rewrite.lineFeed ∉ b

theorem isDecoded_of_parse {line : Bytes} {r : Record} (hparse : parse line = some r) :
    r.identity.IsDecoded ∧ r.realm.IsDecoded ∧ r.token.IsDecoded := by
  rw [parse] at hparse
  split at hparse
  · rename_i identity realm token hfields
    simp only at hparse
    split at hparse
    · cases hparse
    · cases hparse
      exact ⟨⟨identity, rfl⟩, ⟨realm, rfl⟩, ⟨stripped token, rfl⟩⟩
  · cases hparse

end Record

/-- A text that a record can hold as its identity or its realm: it was validated, and it is what its
    bytes are read as. -/
structure Text.IsField (t : Text) : Prop where
  isDecoded : t.IsDecoded
  ne_nil : t ≠ []
  notMem : ∀ c ∈ Policy.forbidden, c ∉ t

namespace Text

theorem of_validateField {name t : Text} (hvalid : Policy.validateField name t = .ok ()) :
    t ≠ [] ∧ ∀ c ∈ Policy.forbidden, c ∉ t := by
  rw [Policy.validateField] at hvalid
  split at hvalid
  · cases hvalid
  · rename_i hempty
    split at hvalid
    · cases hvalid
    · rename_i hforbidden
      refine ⟨by simpa using hempty, fun c hc => ?_⟩
      simpa using List.find?_eq_none.1 hforbidden c hc

theorem isField_of_validateField {name t : Text} (hdecoded : t.IsDecoded)
    (hvalid : Policy.validateField name t = .ok ()) : t.IsField := by
  obtain ⟨hne, hclear⟩ := of_validateField hvalid
  exact ⟨hdecoded, hne, hclear⟩

/-- The bytes of a text without separators hold nothing that would end a field. -/
theorem isPiece_of_notMem {t : Text} {b : Bytes} (hne : t ≠ []) (hclear : ∀ c ∈ Policy.forbidden, c ∉ t)
    (hbytes : t.toBytes? = some b) : Record.IsPiece b := by
  have hoctet : ∀ x : UInt8, ∀ c ∈ Policy.forbidden, c.val = x.toNat → x.toNat < 0x80 → x ∉ b := by
    intro x c hc hval hascii hx
    obtain ⟨d, hd, hdval⟩ := mem_of_mem_toBytes? hbytes hx hascii
    have hsame : d = c := Fin.ext (hdval.trans hval.symm)
    exact hclear c hc (hsame ▸ hd)
  refine ⟨toBytes?_ne_nil hne hbytes, ?_, ?_⟩
  · exact hoctet Token.colon (CodePoint.ofChar ':') (by decide) (by decide) (by decide)
  · exact hoctet Rewrite.lineFeed (CodePoint.ofChar '\n') (by decide) (by decide) (by decide)

theorem IsField.exists_toBytes? {t : Text} (hfield : t.IsField) :
    ∃ b, t.toBytes? = some b ∧ Record.IsPiece b := by
  obtain ⟨b, hbytes⟩ := hfield.isDecoded.exists_toBytes?
  exact ⟨b, hbytes, isPiece_of_notMem hfield.ne_nil hfield.notMem hbytes⟩

end Text

namespace Token

/-- The bytes of a token are a field that has no white space. -/
theorem IsHex.exists_toBytes? {t : Text} (hhex : IsHex t) :
    ∃ b, t.toBytes? = some b ∧ Record.IsPiece b ∧ Record.stripped b = b := by
  have hall : (text "0123456789abcdef").all (fun c => CodePoint.octet c.val ≠ colon ∧
      CodePoint.octet c.val ≠ Rewrite.lineFeed ∧ Record.isSpace (CodePoint.octet c.val) = false) = true := by
    decide
  have hdigit : ∀ x ∈ t.map fun c => CodePoint.octet c.val,
      x ≠ colon ∧ x ≠ Rewrite.lineFeed ∧ Record.isSpace x = false := by
    intro x hx
    obtain ⟨c, hc, rfl⟩ := List.mem_map.1 hx
    exact of_decide_eq_true (List.all_eq_true.1 hall c (hhex.digits c hc))
  refine ⟨t.map fun c => CodePoint.octet c.val, hhex.isAscii.toBytes?_eq, ⟨?_, ?_, ?_⟩, ?_⟩
  · rintro hnil
    have hlength := hhex.length_eq
    rw [List.map_eq_nil_iff.1 hnil] at hlength
    cases hlength
  · exact fun hmem => (hdigit _ hmem).1 rfl
  · exact fun hmem => (hdigit _ hmem).2.1 rfl
  · exact Record.stripped_eq_self (fun x hx => (hdigit x (List.mem_of_mem_head? hx)).2.2)
      (fun x hx => (hdigit x (List.mem_of_mem_getLast? hx)).2.2)

end Token

namespace Record

/-- A record as transactions write it. -/
structure IsWritten (r : Record) : Prop where
  identity : r.identity.IsField
  realm : r.realm.IsField
  token : Token.IsHex r.token

/-- The octets of a record that is written: its line. -/
def octets (r : Record) : Bytes := r.toLine?.getD []

variable {r : Record} {identity realm token : Bytes}

/-- Fields that are put together in a line are one line, and are read again. -/
theorem lines_join (hidentity : IsPiece identity) (hrealm : IsPiece realm) (htoken : IsPiece token)
    (hstripped : stripped token = token) :
    ∃ front, identity ++ Token.colon :: (realm ++ Token.colon :: (token ++ [Rewrite.lineFeed])) =
        front ++ [Rewrite.lineFeed] ∧ Rewrite.lineFeed ∉ front ∧
      parse (front ++ [Rewrite.lineFeed]) =
        some ⟨Bytes.toText identity, Bytes.toText realm, Bytes.toText token⟩ := by
  have hfits := fits_of_notMem ⟨hidentity.ne_nil, hidentity.colon_notMem⟩
    ⟨hrealm.ne_nil, hrealm.colon_notMem⟩ ⟨by rw [hstripped]; exact htoken.ne_nil, htoken.colon_notMem⟩
  have hparse := hfits.parse_join hstripped
  have hfront : identity ++ Token.colon :: (realm ++ Token.colon :: (token ++ [Rewrite.lineFeed])) =
      (identity ++ Token.colon :: (realm ++ Token.colon :: token)) ++ [Rewrite.lineFeed] := by
    simp
  rw [hfront] at hparse ⊢
  have hne : Rewrite.lineFeed ≠ Token.colon := by decide
  exact ⟨_, rfl, by simp [hidentity.lineFeed_notMem, hrealm.lineFeed_notMem, htoken.lineFeed_notMem, hne], hparse⟩

/-- The line of a written record is one line, and it is read as that record. -/
theorem IsWritten.exists_toLine? (hwritten : r.IsWritten) :
    ∃ line, r.toLine? = some line ∧ Bytes.lines line = [line] ∧ line.endsOpen = false ∧
      parse line = some r := by
  obtain ⟨identity, hidentity, hpiece⟩ := hwritten.identity.exists_toBytes?
  obtain ⟨realm, hrealm, hpiece'⟩ := hwritten.realm.exists_toBytes?
  obtain ⟨token, htoken, hpiece₂, hstripped⟩ := hwritten.token.exists_toBytes?
  obtain ⟨front, hfront, hfree, hparse⟩ := lines_join hpiece hpiece' hpiece₂ hstripped
  rw [hwritten.identity.isDecoded.toText_eq hidentity, hwritten.realm.isDecoded.toText_eq hrealm,
    hwritten.token.isAscii.isDecoded.toText_eq htoken] at hparse
  have hline := toLine?_eq hidentity hrealm htoken
  rw [hfront] at hline
  exact ⟨_, hline, Bytes.lines_eq_singleton hfree, Bytes.endsOpen_append_lineFeed front, hparse⟩

end Record

end CredentialStore
