import CredentialStore.Text.Encoding

namespace CredentialStore

namespace CodePoint

/-- The number of an octet is that octet again. -/
theorem octet_toNat (b : UInt8) : octet b.toNat = b := UInt8.ofNat_toNat

/-- A number that is the number of an octet is that octet. -/
theorem octet_of_eq {n : Nat} {b : UInt8} (h : n = b.toNat) : octet n = b := by
  rw [h, octet_toNat]

/-- A code point outside the surrogates has its octets in UTF-8. -/
theorem toBytes?_of_not_isSurrogate {c : CodePoint} (h : c.val < 0xD800 ∨ 0xDFFF < c.val) :
    c.toBytes? = some c.utf8 := by
  have hstray : c.strayOctet? = none := by
    simp only [strayOctet?, ite_eq_right_iff, reduceCtorEq, imp_false]
    omega
  have hsurrogate : c.isSurrogate = false := by
    simp only [isSurrogate, Bool.and_eq_false_iff, decide_eq_false_iff_not]
    omega
  simp [toBytes?, hstray, toUtf8?, hsurrogate]

/-- A surrogate that holds an octet has that octet. -/
theorem toBytes?_ofStrayOctet {b : UInt8} (h : 0x80 ≤ b.toNat) :
    (ofStrayOctet b).toBytes? = some [b] := by
  have hb : b.toNat < 256 := b.toNat_lt
  have hval : (ofStrayOctet b).val = 0xDC00 + b.toNat := by
    simp only [ofStrayOctet, Fin.ofNat]
    omega
  have hstray : (ofStrayOctet b).strayOctet? = some b := by
    rw [strayOctet?, if_pos (by omega)]
    exact congrArg some (octet_of_eq (by omega))
  simp [toBytes?, hstray]

/-- A code point that two octets write. -/
theorem utf8_pair {c : CodePoint} {b₁ b₂ : UInt8} (h₁ : 0xC2 ≤ b₁.toNat ∧ b₁.toNat ≤ 0xDF)
    (h₂ : 0x80 ≤ b₂.toNat ∧ b₂.toNat ≤ 0xBF)
    (hval : c.val = b₁.toNat % 0x20 * 0x40 + b₂.toNat % 0x40) : c.utf8 = [b₁, b₂] := by
  rw [utf8, if_neg (by omega), if_pos (by omega), octet_of_eq (b := b₁) (by omega),
    octet_of_eq (b := b₂) (by omega)]

/-- A code point that three octets write. -/
theorem utf8_triple {c : CodePoint} {b₁ b₂ b₃ : UInt8} (h₁ : 0xE0 ≤ b₁.toNat ∧ b₁.toNat ≤ 0xEF)
    (h₂ : 0x80 ≤ b₂.toNat ∧ b₂.toNat ≤ 0xBF) (h₃ : 0x80 ≤ b₃.toNat ∧ b₃.toNat ≤ 0xBF)
    (hlong : b₁.toNat = 0xE0 → 0xA0 ≤ b₂.toNat)
    (hval : c.val = b₁.toNat % 0x10 * 0x1000 + b₂.toNat % 0x40 * 0x40 + b₃.toNat % 0x40) :
    c.utf8 = [b₁, b₂, b₃] := by
  rw [utf8, if_neg (by omega), if_neg (by omega), if_pos (by omega),
    octet_of_eq (b := b₁) (by omega), octet_of_eq (b := b₂) (by omega),
    octet_of_eq (b := b₃) (by omega)]

/-- A code point that four octets write. -/
theorem utf8_quadruple {c : CodePoint} {b₁ b₂ b₃ b₄ : UInt8}
    (h₁ : 0xF0 ≤ b₁.toNat ∧ b₁.toNat ≤ 0xF4)
    (h₂ : 0x80 ≤ b₂.toNat ∧ b₂.toNat ≤ 0xBF) (h₃ : 0x80 ≤ b₃.toNat ∧ b₃.toNat ≤ 0xBF)
    (h₄ : 0x80 ≤ b₄.toNat ∧ b₄.toNat ≤ 0xBF) (hlong : b₁.toNat = 0xF0 → 0x90 ≤ b₂.toNat)
    (hval : c.val = b₁.toNat % 0x08 * 0x40000 + b₂.toNat % 0x40 * 0x1000 +
      b₃.toNat % 0x40 * 0x40 + b₄.toNat % 0x40) :
    c.utf8 = [b₁, b₂, b₃, b₄] := by
  rw [utf8, if_neg (by omega), if_neg (by omega), if_neg (by omega),
    octet_of_eq (b := b₁) (by omega), octet_of_eq (b := b₂) (by omega),
    octet_of_eq (b := b₃) (by omega), octet_of_eq (b := b₄) (by omega)]

end CodePoint

namespace Bytes

/-- The octets that continue a sequence, by their numbers. -/
theorem isContinuation_iff {b : UInt8} :
    isContinuation b = true ↔ 0x80 ≤ b.toNat ∧ b.toNat ≤ 0xBF := by
  simp [isContinuation, UInt8.le_iff_toNat_le]

/-- The octets that start a pair, by their numbers. -/
theorem startsPair_iff {b : UInt8} : startsPair b = true ↔ 0xC2 ≤ b.toNat ∧ b.toNat ≤ 0xDF := by
  simp [startsPair, UInt8.le_iff_toNat_le]

/-- The octets that start a triple lie in their ranges, which leave out overlong forms and surrogates. -/
theorem startsTriple_bounds {b c : UInt8} (h : startsTriple b c = true) :
    (0xE0 ≤ b.toNat ∧ b.toNat ≤ 0xEF) ∧ (0x80 ≤ c.toNat ∧ c.toNat ≤ 0xBF) ∧
      (b.toNat = 0xE0 → 0xA0 ≤ c.toNat) ∧ (b.toNat = 0xED → c.toNat ≤ 0x9F) := by
  simp only [startsTriple, isContinuation] at h
  split at h
  · rename_i hb
    subst hb
    simp [UInt8.le_iff_toNat_le] at h ⊢
    omega
  · split at h
    · rename_i hb
      subst hb
      simp [UInt8.le_iff_toNat_le] at h ⊢
      omega
    · rename_i h1 h2
      simp only [← UInt8.toNat_inj] at h1 h2
      simp [UInt8.le_iff_toNat_le] at h h1 h2
      omega

/-- The octets that start a quadruple lie in their ranges, which leave out overlong forms and numbers
    above the greatest code point. -/
theorem startsQuadruple_bounds {b c : UInt8} (h : startsQuadruple b c = true) :
    (0xF0 ≤ b.toNat ∧ b.toNat ≤ 0xF4) ∧ (0x80 ≤ c.toNat ∧ c.toNat ≤ 0xBF) ∧
      (b.toNat = 0xF0 → 0x90 ≤ c.toNat) ∧ (b.toNat = 0xF4 → c.toNat ≤ 0x8F) := by
  simp only [startsQuadruple, isContinuation] at h
  split at h
  · rename_i hb
    subst hb
    simp [UInt8.le_iff_toNat_le] at h ⊢
    omega
  · split at h
    · rename_i hb
      subst hb
      simp [UInt8.le_iff_toNat_le] at h ⊢
      omega
    · rename_i h1 h2
      simp only [← UInt8.toNat_inj] at h1 h2
      simp [UInt8.le_iff_toNat_le] at h h1 h2
      omega

/-- A number below the bound is the number of its code point. -/
theorem val_ofNat {n : Nat} (h : n < 0x110000) : (Fin.ofNat 0x110000 n).val = n := by
  simp only [Fin.ofNat]
  omega

/-- The first code point of bytes has the octets that it takes. -/
theorem toBytes?_firstCodePoint (b : UInt8) (rest : Bytes) :
    (firstCodePoint b rest).2 ≤ rest.length ∧
      (firstCodePoint b rest).1.toBytes? = some (b :: rest.take (firstCodePoint b rest).2) := by
  by_cases hascii : b < 0x80
  · have hb : b.toNat < 0x80 := UInt8.lt_iff_toNat_lt.1 hascii
    have hval := val_ofNat (show b.toNat < 0x110000 by omega)
    simp only [firstCodePoint, hascii, if_true, List.take_zero]
    refine ⟨Nat.zero_le _, ?_⟩
    rw [CodePoint.toBytes?_of_not_isSurrogate (by omega), CodePoint.utf8, if_pos (by omega),
      CodePoint.octet_of_eq hval]
  have hstray : (CodePoint.ofStrayOctet b).toBytes? = some [b] := by
    refine CodePoint.toBytes?_ofStrayOctet ?_
    rw [UInt8.lt_iff_toNat_lt] at hascii
    exact Nat.le_of_not_lt hascii
  match rest with
  | [] => simp [firstCodePoint, hascii, hstray]
  | c :: rest =>
    by_cases hpair : (startsPair b && isContinuation c) = true
    · obtain ⟨hb, hc⟩ := (Bool.and_eq_true _ _).mp hpair
      rw [startsPair_iff] at hb
      rw [isContinuation_iff] at hc
      have hval := val_ofNat (show b.toNat % 0x20 * 0x40 + c.toNat % 0x40 < 0x110000 by omega)
      have hfirst : firstCodePoint b (c :: rest) =
          (Fin.ofNat 0x110000 (b.toNat % 0x20 * 0x40 + c.toNat % 0x40), 1) := by
        unfold firstCodePoint payload
        rw [if_neg hascii]
        simp only [hpair, if_true]
      rw [hfirst]
      dsimp only
      refine ⟨by simp, ?_⟩
      rw [CodePoint.toBytes?_of_not_isSurrogate (by omega), CodePoint.utf8_pair hb hc hval]
      rfl
    match rest with
    | [] => simp [firstCodePoint, hascii, hpair, hstray]
    | d :: rest =>
      by_cases htriple : (startsTriple b c && isContinuation d) = true
      · obtain ⟨hbc, hd⟩ := (Bool.and_eq_true _ _).mp htriple
        obtain ⟨hb, hc, hlong, hsurrogate⟩ := startsTriple_bounds hbc
        rw [isContinuation_iff] at hd
        have hval := val_ofNat
          (show b.toNat % 0x10 * 0x1000 + c.toNat % 0x40 * 0x40 + d.toNat % 0x40 < 0x110000 by omega)
        have hfirst : firstCodePoint b (c :: d :: rest) =
            (Fin.ofNat 0x110000
              (b.toNat % 0x10 * 0x1000 + c.toNat % 0x40 * 0x40 + d.toNat % 0x40), 2) := by
          unfold firstCodePoint payload
          rw [if_neg hascii]
          simp only [hpair, htriple, if_true]
          simp
        rw [hfirst]
        dsimp only
        refine ⟨by simp, ?_⟩
        rw [CodePoint.toBytes?_of_not_isSurrogate (by omega), CodePoint.utf8_triple hb hc hd hlong hval]
        rfl
      match rest with
      | [] => simp [firstCodePoint, hascii, hpair, htriple, hstray]
      | e :: rest =>
        by_cases hquad : (startsQuadruple b c && isContinuation d && isContinuation e) = true
        · obtain ⟨hbcd, he⟩ := (Bool.and_eq_true _ _).mp hquad
          obtain ⟨hbc, hd⟩ := (Bool.and_eq_true _ _).mp hbcd
          obtain ⟨hb, hc, hlong, hhigh⟩ := startsQuadruple_bounds hbc
          rw [isContinuation_iff] at hd he
          have hval := val_ofNat
            (show b.toNat % 0x08 * 0x40000 + c.toNat % 0x40 * 0x1000 + d.toNat % 0x40 * 0x40 +
              e.toNat % 0x40 < 0x110000 by omega)
          have hfirst : firstCodePoint b (c :: d :: e :: rest) =
              (Fin.ofNat 0x110000 (b.toNat % 0x08 * 0x40000 + c.toNat % 0x40 * 0x1000 +
                d.toNat % 0x40 * 0x40 + e.toNat % 0x40), 3) := by
            unfold firstCodePoint payload
            rw [if_neg hascii]
            simp only [hpair, htriple, hquad, if_true]
            simp
          rw [hfirst]
          dsimp only
          refine ⟨by simp, ?_⟩
          rw [CodePoint.toBytes?_of_not_isSurrogate (by omega),
            CodePoint.utf8_quadruple hb hc hd he hlong hval]
          rfl
        · simp [firstCodePoint, hascii, hpair, htriple, hquad, hstray]

/-- The octets that follow those already taken come back. -/
theorem toBytes?_toTextAfter {taken : Nat} {b : Bytes} (h : taken ≤ b.length) :
    (toTextAfter taken b).toBytes? = some (b.drop taken) := by
  induction b generalizing taken with
  | nil => simp [toTextAfter, Text.toBytes?]
  | cons b rest ih =>
    match taken with
    | n + 1 => exact ih (Nat.le_of_succ_le_succ h)
    | 0 =>
      obtain ⟨hlength, hfirst⟩ := toBytes?_firstCodePoint b rest
      simp [toTextAfter, Text.toBytes?, hfirst, ih hlength]

/-- Bytes that are read as text come back unchanged. -/
theorem toBytes?_toText (b : Bytes) : (toText b).toBytes? = some b :=
  toBytes?_toTextAfter (Nat.zero_le _)

end Bytes

end CredentialStore
