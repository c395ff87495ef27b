import CredentialStore.Proofs.Record.Line

namespace CredentialStore

theorem Text.isDecoded_iff {t : Text} {b : Bytes} (hbytes : t.toBytes? = some b) :
    t.IsDecoded ↔ Bytes.toText b = t :=
  ⟨fun hdecoded => hdecoded.toText_eq hbytes, fun heq => ⟨b, heq⟩⟩

namespace Record

/-- A record of validated fields and a token is written as one line, and read with the same bytes in its
    fields; it is the same record, and is for whom it was written, when its fields come from bytes. -/
theorem toLine?_faithful {r : Record} {name name' : Text} {line : Bytes}
    (hidentity : Policy.validateField name r.identity = .ok ())
    (hrealm : Policy.validateField name' r.realm = .ok ()) (htoken : Token.IsHex r.token)
    (hline : r.toLine? = some line) :
    (∃ front, line = front ++ [Rewrite.lineFeed] ∧ Rewrite.lineFeed ∉ front) ∧
      ∃ s, parse line = some s ∧ s.identity.toBytes? = r.identity.toBytes? ∧
        s.realm.toBytes? = r.realm.toBytes? ∧ s.token = r.token ∧
        (s = r ↔ r.identity.IsDecoded ∧ r.realm.IsDecoded) ∧
        (s.isFor r.identity r.realm = true ↔ r.identity.IsDecoded ∧ r.realm.IsDecoded) := by
  obtain ⟨identity, hidentityBytes, hline⟩ := Option.bind_eq_some_iff.1 hline
  obtain ⟨realm, hrealmBytes, hline⟩ := Option.bind_eq_some_iff.1 hline
  obtain ⟨token, htokenBytes, hpiece, hstripped⟩ := htoken.exists_toBytes?
  rw [htokenBytes] at hline
  obtain rfl := Option.some.inj hline
  obtain ⟨hne, hclear⟩ := Text.of_validateField hidentity
  obtain ⟨hne', hclear'⟩ := Text.of_validateField hrealm
  obtain ⟨front, hfront, hfree, hparse⟩ := lines_join (Text.isPiece_of_notMem hne hclear hidentityBytes)
    (Text.isPiece_of_notMem hne' hclear' hrealmBytes) hpiece hstripped
  rw [htoken.isAscii.isDecoded.toText_eq htokenBytes, ← hfront] at hparse
  refine ⟨⟨front, hfront, hfree⟩, ⟨Bytes.toText identity, Bytes.toText realm, r.token⟩, hparse, ?_, ?_, rfl,
    ?_, ?_⟩
  · exact (Bytes.toBytes?_toText identity).trans hidentityBytes.symm
  · exact (Bytes.toBytes?_toText realm).trans hrealmBytes.symm
  · rw [Text.isDecoded_iff hidentityBytes, Text.isDecoded_iff hrealmBytes]
    constructor
    · intro heq
      exact ⟨congrArg Record.identity heq, congrArg Record.realm heq⟩
    · rintro ⟨hidentityEq, hrealmEq⟩
      rw [hidentityEq, hrealmEq]
  · rw [Text.isDecoded_iff hidentityBytes, Text.isDecoded_iff hrealmBytes, isFor, Bool.and_eq_true,
      beq_iff_eq, beq_iff_eq]

/-- The token of thirty-two zeros. -/
def zeros : Text := List.replicate Token.length (CodePoint.ofChar '0')

theorem isHex_zeros : Token.IsHex zeros := by
  refine ⟨List.length_replicate, fun c hc => ?_⟩
  rw [List.eq_of_mem_replicate hc]
  decide

/-- A realm with a letter of two octets is written and found again. -/
theorem toLine?_faithful_letter :
    ∃ line s, toLine? ⟨text "al", text "é", zeros⟩ = some line ∧ parse line = some s ∧
      s = ⟨text "al", text "é", zeros⟩ ∧ s.isFor (text "al") (text "é") = true := by
  have hidentity : Policy.validateField (text "username") (text "al") = .ok () := rfl
  have hrealm : Policy.validateField (text "group") (text "é") = .ok () := rfl
  obtain ⟨-, s, hparse, -, -, -, hsame, hfor⟩ :=
    toLine?_faithful (r := ⟨text "al", text "é", zeros⟩) hidentity hrealm isHex_zeros rfl
  have hdecoded : (text "al").IsDecoded ∧ (text "é").IsDecoded :=
    ⟨⟨[0x61, 0x6C], by decide⟩, ⟨[0xC3, 0xA9], by decide⟩⟩
  exact ⟨_, s, rfl, hparse, hsame.2 hdecoded, hfor.2 hdecoded⟩

/-- A realm of two surrogates that hold the octets of that letter is accepted and written, but the line is
    read as the record of the letter, which is for another realm. -/
theorem toLine?_not_faithful :
    Policy.validateField (text "username") (text "al") = .ok () ∧
      Policy.validateField (text "group") [0xDCC3, 0xDCA9] = .ok () ∧ Token.IsHex zeros ∧
      ∃ line s, toLine? ⟨text "al", [0xDCC3, 0xDCA9], zeros⟩ = some line ∧ parse line = some s ∧
        s ≠ ⟨text "al", [0xDCC3, 0xDCA9], zeros⟩ ∧ s.isFor (text "al") [0xDCC3, 0xDCA9] = false := by
  have hother : text "é" ≠ [0xDCC3, 0xDCA9] := by decide
  exact ⟨rfl, rfl, isHex_zeros, _, ⟨text "al", text "é", zeros⟩, rfl, rfl,
    fun heq => hother (congrArg Record.realm heq), by decide⟩

end Record

end CredentialStore
