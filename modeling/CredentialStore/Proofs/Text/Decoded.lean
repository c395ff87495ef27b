import CredentialStore.Proofs.Text.Octets

namespace CredentialStore

namespace Bytes

variable {b c d e : UInt8}

theorem startsTriple_of_bounds (hb : 0xE0 ≤ b.toNat ∧ b.toNat ≤ 0xEF)
    (hc : 0x80 ≤ c.toNat ∧ c.toNat ≤ 0xBF) (hlong : b.toNat = 0xE0 → 0xA0 ≤ c.toNat)
    (hsurrogate : b.toNat = 0xED → c.toNat ≤ 0x9F) : startsTriple b c = true := by
  simp only [startsTriple, isContinuation, ← UInt8.toNat_inj]
  split
  · rename_i hfirst
    simp [UInt8.le_iff_toNat_le] at hfirst ⊢
    omega
  · split
    · rename_i hfirst
      simp [UInt8.le_iff_toNat_le] at hfirst ⊢
      omega
    · rename_i hfirst hsecond
      simp [UInt8.le_iff_toNat_le] at hfirst hsecond ⊢
      omega

theorem startsQuadruple_of_bounds (hb : 0xF0 ≤ b.toNat ∧ b.toNat ≤ 0xF4)
    (hc : 0x80 ≤ c.toNat ∧ c.toNat ≤ 0xBF) (hlong : b.toNat = 0xF0 → 0x90 ≤ c.toNat)
    (hhigh : b.toNat = 0xF4 → c.toNat ≤ 0x8F) : startsQuadruple b c = true := by
  simp only [startsQuadruple, isContinuation, ← UInt8.toNat_inj]
  split
  · rename_i hfirst
    simp [UInt8.le_iff_toNat_le] at hfirst ⊢
    omega
  · split
    · rename_i hfirst
      simp [UInt8.le_iff_toNat_le] at hfirst ⊢
      omega
    · rename_i hfirst hsecond
      simp [UInt8.le_iff_toNat_le] at hfirst hsecond ⊢
      omega

theorem startsPair_eq_false (hb : 0xE0 ≤ b.toNat) : startsPair b = false := by
  rw [← Bool.not_eq_true, startsPair_iff]
  omega

theorem startsTriple_eq_false (hb : 0xF0 ≤ b.toNat) : startsTriple b c = false := by
  rw [← Bool.not_eq_true]
  intro hstarts
  have hbounds := (startsTriple_bounds hstarts).1
  omega

theorem firstCodePoint_pair (hb : 0xC2 ≤ b.toNat ∧ b.toNat ≤ 0xDF)
    (hc : 0x80 ≤ c.toNat ∧ c.toNat ≤ 0xBF) (rest : Bytes) :
    firstCodePoint b (c :: rest) =
      (Fin.ofNat 0x110000 (b.toNat % 0x20 * 0x40 + c.toNat % 0x40), 1) := by
  have hascii : ¬b < 0x80 := by
    rw [UInt8.lt_iff_toNat_lt]
    exact Nat.not_lt.2 (Nat.le_trans (by decide) hb.1)
  unfold firstCodePoint payload
  rw [if_neg hascii]
  simp [startsPair_iff.2 hb, isContinuation_iff.2 hc]

theorem firstCodePoint_triple (hb : 0xE0 ≤ b.toNat ∧ b.toNat ≤ 0xEF)
    (hc : 0x80 ≤ c.toNat ∧ c.toNat ≤ 0xBF) (hd : 0x80 ≤ d.toNat ∧ d.toNat ≤ 0xBF)
    (hlong : b.toNat = 0xE0 → 0xA0 ≤ c.toNat) (hsurrogate : b.toNat = 0xED → c.toNat ≤ 0x9F)
    (rest : Bytes) : firstCodePoint b (c :: d :: rest) =
      (Fin.ofNat 0x110000 (b.toNat % 0x10 * 0x1000 + c.toNat % 0x40 * 0x40 + d.toNat % 0x40), 2) := by
  have hascii : ¬b < 0x80 := by
    rw [UInt8.lt_iff_toNat_lt]
    exact Nat.not_lt.2 (Nat.le_trans (by decide) hb.1)
  unfold firstCodePoint payload
  rw [if_neg hascii]
  simp [startsPair_eq_false hb.1, startsTriple_of_bounds hb hc hlong hsurrogate, isContinuation_iff.2 hd]

theorem firstCodePoint_quadruple (hb : 0xF0 ≤ b.toNat ∧ b.toNat ≤ 0xF4)
    (hc : 0x80 ≤ c.toNat ∧ c.toNat ≤ 0xBF) (hd : 0x80 ≤ d.toNat ∧ d.toNat ≤ 0xBF)
    (he : 0x80 ≤ e.toNat ∧ e.toNat ≤ 0xBF) (hlong : b.toNat = 0xF0 → 0x90 ≤ c.toNat)
    (hhigh : b.toNat = 0xF4 → c.toNat ≤ 0x8F) (rest : Bytes) :
    firstCodePoint b (c :: d :: e :: rest) =
      (Fin.ofNat 0x110000 (b.toNat % 0x08 * 0x40000 + c.toNat % 0x40 * 0x1000 +
        d.toNat % 0x40 * 0x40 + e.toNat % 0x40), 3) := by
  have hascii : ¬b < 0x80 := by
    rw [UInt8.lt_iff_toNat_lt]
    exact Nat.not_lt.2 (Nat.le_trans (by decide) hb.1)
  have hpair := startsPair_eq_false (b := b) (Nat.le_trans (by decide) hb.1)
  unfold firstCodePoint payload
  rw [if_neg hascii]
  simp [hpair, startsTriple_eq_false hb.1, startsQuadruple_of_bounds hb hc hlong hhigh,
    isContinuation_iff.2 hd, isContinuation_iff.2 he]

/-- Octets that were taken already are passed over. -/
theorem toTextAfter_append (tail rest : Bytes) :
    toTextAfter tail.length (tail ++ rest) = toText rest := by
  induction tail with
  | nil => rfl
  | cons b tail ih => exact ih

end Bytes

theorem CodePoint.toNat_octet {n : Nat} (hn : n < 256) : (octet n).toNat = n := by
  rw [octet, UInt8.toNat_ofNat']
  exact Nat.mod_eq_of_lt hn

/-- The octets of a code point are read as that code point, whatever comes after them. -/
theorem CodePoint.exists_firstCodePoint_utf8 {c : CodePoint} (hc : c.isSurrogate = false) :
    ∃ b tail, c.utf8 = b :: tail ∧
      ∀ rest, Bytes.firstCodePoint b (tail ++ rest) = (c, tail.length) := by
  have hlt := c.isLt
  have hrange : c.val < 0xD800 ∨ 0xDFFF < c.val := by
    simp only [isSurrogate, Bool.and_eq_false_iff, decide_eq_false_iff_not] at hc
    omega
  have hread : ∀ n, n = c.val → Fin.ofNat 0x110000 n = c := by
    rintro n rfl
    exact Fin.ext (Bytes.val_ofNat hlt)
  by_cases hone : c.val < 0x80
  · refine ⟨octet c.val, [], by rw [utf8, if_pos hone], fun rest => ?_⟩
    have hval : (octet c.val).toNat = c.val := toNat_octet (by omega)
    have hascii : octet c.val < 0x80 := by
      rw [UInt8.lt_iff_toNat_lt, hval]
      exact hone
    rw [List.nil_append, Bytes.firstCodePoint.eq_def, if_pos hascii, hread _ hval]
    rfl
  · by_cases htwo : c.val < 0x800
    · refine ⟨_, _, by rw [utf8, if_neg hone, if_pos htwo], fun rest => ?_⟩
      have h₁ : (octet (0xC0 + c.val / 0x40)).toNat = 0xC0 + c.val / 0x40 := toNat_octet (by omega)
      have h₂ : (octet (0x80 + c.val % 0x40)).toNat = 0x80 + c.val % 0x40 := toNat_octet (by omega)
      rw [List.singleton_append, Bytes.firstCodePoint_pair (by omega) (by omega), hread _ (by omega)]
      rfl
    · by_cases hthree : c.val < 0x10000
      · refine ⟨_, _, by rw [utf8, if_neg hone, if_neg htwo, if_pos hthree], fun rest => ?_⟩
        have h₁ : (octet (0xE0 + c.val / 0x1000)).toNat = 0xE0 + c.val / 0x1000 := toNat_octet (by omega)
        have h₂ : (octet (0x80 + c.val / 0x40 % 0x40)).toNat = 0x80 + c.val / 0x40 % 0x40 :=
          toNat_octet (by omega)
        have h₃ : (octet (0x80 + c.val % 0x40)).toNat = 0x80 + c.val % 0x40 := toNat_octet (by omega)
        rw [List.cons_append, List.singleton_append, Bytes.firstCodePoint_triple (by omega) (by omega)
          (by omega) (by omega) (by omega), hread _ (by omega)]
        rfl
      · refine ⟨_, _, by rw [utf8, if_neg hone, if_neg htwo, if_neg hthree], fun rest => ?_⟩
        have h₁ : (octet (0xF0 + c.val / 0x40000)).toNat = 0xF0 + c.val / 0x40000 := toNat_octet (by omega)
        have h₂ : (octet (0x80 + c.val / 0x1000 % 0x40)).toNat = 0x80 + c.val / 0x1000 % 0x40 :=
          toNat_octet (by omega)
        have h₃ : (octet (0x80 + c.val / 0x40 % 0x40)).toNat = 0x80 + c.val / 0x40 % 0x40 :=
          toNat_octet (by omega)
        have h₄ : (octet (0x80 + c.val % 0x40)).toNat = 0x80 + c.val % 0x40 := toNat_octet (by omega)
        rw [List.cons_append, List.cons_append, List.singleton_append, Bytes.firstCodePoint_quadruple
          (by omega) (by omega) (by omega) (by omega) (by omega) (by omega), hread _ (by omega)]
        rfl

/-- A text is what its UTF-8 is read as. -/
theorem Text.toText_of_toUtf8? {t : Text} {b : Bytes} (hutf8 : t.toUtf8? = some b) :
    Bytes.toText b = t := by
  induction t generalizing b with
  | nil =>
    cases hutf8
    rfl
  | cons c rest ih =>
    rw [toUtf8?] at hutf8
    obtain ⟨head, hhead, hutf8⟩ := Option.bind_eq_some_iff.1 hutf8
    obtain ⟨tail, htail, hutf8⟩ := Option.bind_eq_some_iff.1 hutf8
    cases hutf8
    rw [CodePoint.toUtf8?] at hhead
    split at hhead
    · cases hhead
    · rename_i hsurrogate
      cases hhead
      obtain ⟨first, others, hoctets, hread⟩ :=
        CodePoint.exists_firstCodePoint_utf8 (Bool.not_eq_true _ ▸ hsurrogate)
      have hrest : Bytes.toTextAfter others.length (others ++ tail) = rest :=
        (Bytes.toTextAfter_append others tail).trans (ih htail)
      rw [hoctets, List.cons_append, Bytes.toText, Bytes.toTextAfter]
      simp only [hread, hrest]

theorem Text.isDecoded_of_toUtf8? {t : Text} {b : Bytes} (hutf8 : t.toUtf8? = some b) : t.IsDecoded :=
  ⟨b, t.toText_of_toUtf8? hutf8⟩

theorem CodePoint.isSurrogate_ofChar (c : Char) : (ofChar c).isSurrogate = false := by
  have hrange : c.toNat < 0xD800 ∨ 0xDFFF < c.toNat := by
    rcases c.valid with hlow | ⟨hhigh, -⟩
    · exact .inl hlow
    · exact .inr hhigh
  have hval : (ofChar c).val = c.toNat := rfl
  simp only [isSurrogate, hval, Bool.and_eq_false_iff, decide_eq_false_iff_not]
  omega

/-- The text of a string has no surrogates. -/
theorem isSurrogate_eq_false_of_mem_text {s : String} {c : CodePoint} (hc : c ∈ text s) :
    c.isSurrogate = false := by
  obtain ⟨char, -, rfl⟩ := List.mem_map.1 hc
  exact CodePoint.isSurrogate_ofChar char

/-- A text without surrogates has UTF-8. -/
theorem Text.exists_toUtf8? {t : Text} (hclear : ∀ c ∈ t, c.isSurrogate = false) :
    ∃ b, t.toUtf8? = some b := by
  induction t with
  | nil => exact ⟨[], rfl⟩
  | cons c rest ih =>
    obtain ⟨tail, htail⟩ := ih fun d hd => hclear d (List.mem_cons_of_mem c hd)
    have hc : c.toUtf8? = some c.utf8 := by
      rw [CodePoint.toUtf8?, hclear c List.mem_cons_self]
      rfl
    exact ⟨c.utf8 ++ tail, by rw [toUtf8?, hc, htail]; rfl⟩

end CredentialStore
