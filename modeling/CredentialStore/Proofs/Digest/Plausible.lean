import CredentialStore.Proofs.Digest.Token
import CredentialStore.Proofs.Text.Numeral

namespace CredentialStore

namespace Numeral

theorem digits_of_forall {radix : Radix} {t : Text} (hne : t ≠ []) (hall : ∀ c ∈ t, IsDigit radix c) :
    Digits radix t := by
  induction t with
  | nil => exact absurd rfl hne
  | cons c rest ih =>
    have hdigit := hall c List.mem_cons_self
    cases rest with
    | nil => exact .single hdigit
    | cons d more =>
      have hmore := ih (List.cons_ne_nil d more) fun e he => hall e (List.mem_cons_of_mem c he)
      exact .cons hdigit hmore

/-- A digit in lower case is plain. -/
theorem of_mem_lowercase {c : CodePoint} (hc : c ∈ text "0123456789abcdef") :
    plain c = c ∧ IsDigit .hexadecimal c := by
  have hall : (text "0123456789abcdef").all (fun c =>
      plain c = c ∧ (digitValue? c).any (· < Radix.size .hexadecimal)) = true := by decide
  obtain ⟨hplain, hdigit⟩ := of_decide_eq_true (List.all_eq_true.1 hall c hc)
  obtain ⟨d, hvalue, hlt⟩ := (Option.any_eq_true _ _).1 hdigit
  exact ⟨hplain, d, hvalue, of_decide_eq_true hlt⟩

end Numeral

namespace Token

open Numeral

variable {t : Text}

theorem isPlausible_iff : isPlausible t = true ↔
    t.length = length ∧ ∃ front sign mark digits back, Spelled .hexadecimal t front sign mark digits back := by
  rw [isPlausible, Bool.and_eq_true, beq_iff_eq, isSome_toInt?_iff]

/-- The digits of a token alone are a numeral. -/
theorem IsHex.spelled (hhex : IsHex t) : Spelled .hexadecimal t [] [] [] t [] := by
  have hne : t ≠ [] := by
    rintro rfl
    cases hhex.length_eq
  have hplain : t.map plain = t := by
    calc t.map plain = t.map id := List.map_congr_left fun c hc => (of_mem_lowercase (hhex.digits c hc)).1
      _ = t := List.map_id t
  refine ⟨?_, List.forall_mem_nil _, .inl rfl, .inl rfl, ?_, List.forall_mem_nil _⟩
  · simpa using hplain
  · exact digits_of_forall hne fun c hc => (of_mem_lowercase (hhex.digits c hc)).2

theorem IsHex.isPlausible (hhex : IsHex t) : Token.isPlausible t = true :=
  isPlausible_iff.2 ⟨hhex.length_eq, [], [], [], t, [], hhex.spelled⟩

/-- A text has the form of a token exactly if it is plausible and all of it are digits in lower case. -/
theorem isHex_iff_isPlausible :
    IsHex t ↔ isPlausible t = true ∧ ∀ c ∈ t, c ∈ text "0123456789abcdef" := by
  constructor
  · intro hhex
    exact ⟨hhex.isPlausible, hhex.digits⟩
  · rintro ⟨hnumeral, hdigits⟩
    exact ⟨(isPlausible_iff.1 hnumeral).1, hdigits⟩

/-- What is plausible: the numerals of the length of a token. Among them the texts of the form of a token are
    those of digits in lower case, and every token that is made is one of these. -/
theorem plausible_tokens (t identity realm : Text) (secret : TextOrBytes) :
    (isPlausible t = true ↔
      t.length = length ∧ ∃ front sign mark digits back, Spelled .hexadecimal t front sign mark digits back) ∧
    (IsHex t ↔ isPlausible t = true ∧ ∀ c ∈ t, c ∈ text "0123456789abcdef") ∧
    ∀ x y z, identity.toBytes? = some x → realm.toBytes? = some y → secret.utf8? = some z →
      ∃ token, ofSecret? identity realm secret = some token ∧ IsHex token ∧ isPlausible token = true := by
  refine ⟨isPlausible_iff, isHex_iff_isPlausible, ?_⟩
  intro x y z hidentity hrealm hsecret
  obtain ⟨token, htoken⟩ := exists_of? hidentity hrealm z
  have hhex := isHex_of_of? htoken
  refine ⟨token, ?_, hhex, hhex.isPlausible⟩
  rw [ofSecret?, hsecret]
  exact htoken

/-- A token is made of a name with a colon and a secret in bytes, and is plausible. -/
theorem colonName_isPlausible :
    ∃ token, ofSecret? (text "a:l") [] (.bytes [0xFF]) = some token ∧ IsHex token ∧ isPlausible token = true :=
  (plausible_tokens [] (text "a:l") [] (.bytes [0xFF])).2.2 [0x61, 0x3A, 0x6C] [] [0xFF] rfl rfl rfl

/-- One digit after spaces is plausible, and has not the form of a token. -/
theorem spaces_isPlausible :
    let t : Text := List.replicate 31 (CodePoint.ofChar ' ') ++ text "1"
    isPlausible t = true ∧ ¬IsHex t := by
  refine ⟨by decide, fun hhex => ?_⟩
  have hspace : CodePoint.ofChar ' ' ∉ text "0123456789abcdef" := by decide
  exact hspace (hhex.digits _ (by simp))

end Token

end CredentialStore
