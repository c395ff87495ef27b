import CredentialStore.Policy
import CredentialStore.Proofs.Text.Utf8

namespace CredentialStore

/-- A to Z or a to z. -/
def CodePoint.IsLetter (c : CodePoint) : Prop :=
  ('A'.toNat ≤ c.val ∧ c.val ≤ 'Z'.toNat) ∨ ('a'.toNat ≤ c.val ∧ c.val ≤ 'z'.toNat)

/-- 0 to 9. -/
def CodePoint.IsDigit (c : CodePoint) : Prop := '0'.toNat ≤ c.val ∧ c.val ≤ '9'.toNat

instance (c : CodePoint) : Decidable c.IsLetter := inferInstanceAs (Decidable (_ ∨ _))

instance (c : CodePoint) : Decidable c.IsDigit := inferInstanceAs (Decidable (_ ∧ _))

def Text.HasLetter (t : Text) : Prop := ∃ c ∈ t, c.IsLetter

def Text.HasDigit (t : Text) : Prop := ∃ c ∈ t, c.IsDigit

instance (t : Text) : Decidable t.HasLetter := List.decidableBEx _ _

instance (t : Text) : Decidable t.HasDigit := List.decidableBEx _ _

namespace Policy

/-- What the rules say of a secret, code point by code point. -/
def verdict (secret identity : Text) : Verdict :=
  if secret.length < 6 then .tooShort
  else if ¬ secret.HasLetter ∨ ¬ secret.HasDigit then .lacksLetterOrDigit
  else if identity ≠ [] ∧ identity <:+: secret then .containsIdentity
  else .accepted

theorem isLetter_iff (b : UInt8) :
    isLetter b = true ↔ (65 ≤ b.toNat ∧ b.toNat ≤ 90) ∨ (97 ≤ b.toNat ∧ b.toNat ≤ 122) := by
  simp [isLetter, UInt8.le_iff_toNat_le]

theorem isDigit_iff (b : UInt8) : isDigit b = true ↔ 48 ≤ b.toNat ∧ b.toNat ≤ 57 := by
  simp [isDigit, UInt8.le_iff_toNat_le]

theorem occursIn_iff {part whole : Bytes} : occursIn part whole = true ↔ part <:+: whole := by
  induction whole with
  | nil => simp [occursIn, List.isEmpty_iff]
  | cons b rest ih => simp [occursIn, List.infix_cons_iff, ih]

theorem any_isLetter_utf8 (t : Text) : t.utf8.any isLetter = true ↔ t.HasLetter := by
  rw [Text.any_utf8 t isLetter fun b hb => by have := (isLetter_iff b).1 hb; omega, List.any_eq_true]
  refine exists_congr fun c => and_congr_right fun _ => ?_
  rw [Bool.and_eq_true, decide_eq_true_iff, isLetter_iff]
  constructor
  · rintro ⟨hc, hrange⟩
    rwa [CodePoint.toNat_octet (by omega)] at hrange
  · intro hletter
    have hc : c.val < 0x80 := by
      obtain ⟨-, h⟩ | ⟨-, h⟩ := hletter
      · exact lt_of_le_of_lt h (by decide)
      · exact lt_of_le_of_lt h (by decide)
    rw [CodePoint.toNat_octet (by omega)]
    exact ⟨hc, hletter⟩

theorem any_isDigit_utf8 (t : Text) : t.utf8.any isDigit = true ↔ t.HasDigit := by
  rw [Text.any_utf8 t isDigit fun b hb => by have := (isDigit_iff b).1 hb; omega, List.any_eq_true]
  refine exists_congr fun c => and_congr_right fun _ => ?_
  rw [Bool.and_eq_true, decide_eq_true_iff, isDigit_iff]
  constructor
  · rintro ⟨hc, hrange⟩
    rwa [CodePoint.toNat_octet (by omega)] at hrange
  · intro hdigit
    have hc : c.val < 0x80 := lt_of_le_of_lt hdigit.2 (by decide)
    rw [CodePoint.toNat_octet (by omega)]
    exact ⟨hc, hdigit⟩

/-- The check reads of a secret no more than its UTF-8 and how many code points that has. -/
theorem check?_eq_of_utf8? {value : TextOrBytes} {secret identity : Text} (hidentity : identity.IsProper)
    (hproper : secret.IsProper) (hutf8 : value.utf8? = some secret.utf8)
    (hcount : characterCount value = secret.length) :
    check? value identity = some (verdict secret identity) := by
  have hlacks : (!(secret.utf8.any isLetter && secret.utf8.any isDigit)) = true ↔
      ¬ secret.HasLetter ∨ ¬ secret.HasDigit := by
    rw [Bool.not_eq_true', ← Bool.not_eq_true, Bool.and_eq_true, any_isLetter_utf8, any_isDigit_utf8,
      not_and_or]
  have hfound : occursIn identity.utf8 secret.utf8 = true ↔ identity <:+: secret :=
    occursIn_iff.trans (Text.utf8_infix_iff hidentity hproper)
  simp only [check?, verdict, hutf8, hcount, minimumLength, Option.bind_eq_bind, Option.bind_some,
    Option.pure_def, hlacks]
  by_cases hshort : secret.length < 6
  · simp only [hshort, if_true]
  by_cases hunmixed : ¬ secret.HasLetter ∨ ¬ secret.HasDigit
  · simp only [hshort, hunmixed, if_false, if_true]
  cases identity with
  | nil => simp only [hshort, hunmixed, if_false, List.isEmpty_nil, if_true, ne_eq, not_true, false_and]
  | cons c rest =>
    simp only [hshort, hunmixed, hidentity.toUtf8?_eq, Option.bind_some, hfound, List.isEmpty_cons,
      if_false, Bool.false_eq_true, ne_eq, reduceCtorEq, not_false_eq_true, true_and]

/-- A secret of proper Unicode text and its UTF-8 are judged alike, and as the rules on code points say. -/
theorem check?_eq_verdict {secret identity : Text} (hproper : secret.IsProper)
    (hidentity : identity.IsProper) :
    ∃ octets, secret.toUtf8? = some octets ∧
      check? (.text secret) identity = some (verdict secret identity) ∧
      check? (.bytes octets) identity = some (verdict secret identity) :=
  ⟨secret.utf8, hproper.toUtf8?_eq,
    check?_eq_of_utf8? hidentity hproper hproper.toUtf8?_eq rfl,
    check?_eq_of_utf8? hidentity hproper rfl secret.countP_not_isContinuation_utf8⟩

/-- Six characters in eleven octets; the identity is two of them. -/
theorem sampleSecret_judged : ∃ octets, (text "a1ééñ€").toUtf8? = some octets ∧
    check? (.text (text "a1ééñ€")) (text "éñ") = some (verdict (text "a1ééñ€") (text "éñ")) ∧
    check? (.bytes octets) (text "éñ") = some (verdict (text "a1ééñ€") (text "éñ")) :=
  check?_eq_verdict (by decide) (by decide)

example : verdict (text "a1ééñ€") (text "éñ") = .containsIdentity := by decide

end Policy

end CredentialStore
