import CredentialStore.Digest.Token
import CredentialStore.Proofs.Text.Octets

namespace CredentialStore

namespace Text

theorem hexDigit_mem (n : Nat) : hexDigit n ∈ text "0123456789abcdef" := by
  have hall : ∀ k < 16, CodePoint.ofChar (Nat.digitChar k) ∈ text "0123456789abcdef" := by decide
  exact hall (n % 16) (Nat.mod_lt n (by omega))

theorem mem_hex {width n : Nat} {c : CodePoint} (hc : c ∈ hex width n) :
    c ∈ text "0123456789abcdef" := by
  induction width generalizing n with
  | zero => simp [hex] at hc
  | succ width ih =>
    rw [hex, List.mem_append, List.mem_singleton] at hc
    rcases hc with hc | rfl
    · exact ih hc
    · exact hexDigit_mem n

end Text

namespace Token

/-- Thirty-two hexadecimal digits in lower case. -/
structure IsHex (t : Text) : Prop where
  length_eq : t.length = length
  digits : ∀ c ∈ t, c ∈ text "0123456789abcdef"

/-- Every token that is made has this form, whatever it is made of. -/
theorem isHex_of_of? {identity realm token : Text} {secret : Bytes}
    (hof : of? identity realm secret = some token) : IsHex token := by
  refine ⟨length_of? hof, fun c hc => ?_⟩
  obtain ⟨message, -, rfl⟩ := Option.map_eq_some_iff.1 hof
  obtain ⟨octet, -, hhex⟩ := List.mem_flatMap.1 hc
  exact Text.mem_hex hhex

theorem IsHex.isAscii {t : Text} (hhex : IsHex t) : t.IsAscii := by
  have hall : (text "0123456789abcdef").all (fun c => c.val < 0x80) = true := by decide
  intro c hc
  have hdigit := List.all_eq_true.1 hall c (hhex.digits c hc)
  exact of_decide_eq_true hdigit

theorem exists_of? {identity realm : Text} {x y : Bytes} (hidentity : identity.toBytes? = some x)
    (hrealm : realm.toBytes? = some y) (secret : Bytes) :
    ∃ token, of? identity realm secret = some token := by
  refine ⟨Text.ofOctets (MD5.digest (x ++ colon :: (y ++ colon :: secret))), ?_⟩
  rw [of?, message?, hidentity, hrealm]
  rfl

/-- Tokens that can be read from bytes have the same bytes only if they are the same. -/
theorem same?_eq {a b : Text} (ha : a.IsDecoded) (hb : b.IsDecoded) :
    same? (.text a) (.text b) = some (decide (a = b)) := by
  obtain ⟨x, hx⟩ := ha.exists_toBytes?
  obtain ⟨y, hy⟩ := hb.exists_toBytes?
  have hsame : (x == y) = decide (a = b) := by
    by_cases hab : a = b
    · have hxy : x = y := Option.some.inj (hx.symm.trans ((congrArg Text.toBytes? hab).trans hy))
      simp [hxy, hab]
    · have hxy : x ≠ y := by
        rintro rfl
        exact hab ((ha.toText_eq hx).symm.trans (hb.toText_eq hy))
      simp [hxy, hab]
  simp only [same?, TextOrBytes.bytes?, hx, hy, ← hsame]
  rfl

end Token

end CredentialStore
