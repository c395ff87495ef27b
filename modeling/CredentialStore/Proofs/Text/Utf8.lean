import CredentialStore.Proofs.Text.Decoded
import Mathlib.Data.List.Infix

namespace CredentialStore

namespace CodePoint

/-- The octets of a code point: the first continues no sequence, the others do. -/
theorem exists_utf8_eq_cons (c : CodePoint) : ∃ first tail, c.utf8 = first :: tail ∧
    Bytes.isContinuation first = false ∧ ∀ b ∈ tail, Bytes.isContinuation b = true := by
  have hlt := c.isLt
  have hcontinues : ∀ n, Bytes.isContinuation (octet (0x80 + n % 0x40)) = true := by
    intro n
    have hval : (octet (0x80 + n % 0x40)).toNat = 0x80 + n % 0x40 := toNat_octet (by omega)
    rw [Bytes.isContinuation_iff]
    omega
  have hbegins : ∀ n, n < 0x100 → (n < 0x80 ∨ 0xBF < n) → Bytes.isContinuation (octet n) = false := by
    intro n hn hrange
    have hval : (octet n).toNat = n := toNat_octet hn
    rw [← Bool.not_eq_true, Bytes.isContinuation_iff]
    omega
  by_cases hone : c.val < 0x80
  · exact ⟨_, [], by rw [utf8, if_pos hone], hbegins _ (by omega) (.inl hone), by simp⟩
  · by_cases htwo : c.val < 0x800
    · refine ⟨_, _, by rw [utf8, if_neg hone, if_pos htwo], hbegins _ (by omega) (.inr (by omega)), ?_⟩
      simp [hcontinues]
    · by_cases hthree : c.val < 0x10000
      · refine ⟨_, _, by rw [utf8, if_neg hone, if_neg htwo, if_pos hthree],
          hbegins _ (by omega) (.inr (by omega)), ?_⟩
        simp [hcontinues]
      · refine ⟨_, _, by rw [utf8, if_neg hone, if_neg htwo, if_neg hthree],
          hbegins _ (by omega) (.inr (by omega)), ?_⟩
        simp [hcontinues]

theorem countP_not_isContinuation_utf8 (c : CodePoint) :
    c.utf8.countP (fun b => !Bytes.isContinuation b) = 1 := by
  obtain ⟨first, tail, hoctets, hfirst, htail⟩ := c.exists_utf8_eq_cons
  rw [hoctets, List.countP_cons_of_pos (by simp [hfirst]), List.countP_eq_zero.2 (by simpa using htail)]

/-- What is true of ASCII octets alone is true of an octet of a code point exactly where it is true of its
    number. -/
theorem any_utf8 (c : CodePoint) (p : UInt8 → Bool) (hascii : ∀ b, p b = true → b.toNat < 0x80) :
    c.utf8.any p = (decide (c.val < 0x80) && p (octet c.val)) := by
  by_cases hc : c.val < 0x80
  · simp [utf8, hc]
  · have hnone : c.utf8.any p = false := by
      rw [List.any_eq_false]
      intro b hb hp
      have hlow := hascii b hp
      have hhigh := le_of_mem_utf8 (Nat.le_of_not_lt hc) hb
      omega
    simp [hnone, hc]

/-- No two code points begin alike in UTF-8. -/
theorem eq_of_utf8_append_eq {c d : CodePoint} (hc : c.isSurrogate = false) (hd : d.isSurrogate = false)
    {rest rest' : Bytes} (heq : c.utf8 ++ rest = d.utf8 ++ rest') : c = d := by
  obtain ⟨b, tail, hoctets, hread⟩ := exists_firstCodePoint_utf8 hc
  obtain ⟨b', tail', hoctets', hread'⟩ := exists_firstCodePoint_utf8 hd
  rw [hoctets, hoctets', List.cons_append, List.cons_append] at heq
  obtain ⟨rfl, htail⟩ := List.cons.inj heq
  have hsame := hread rest
  rw [htail, hread' rest'] at hsame
  exact (congrArg Prod.fst hsame).symm

end CodePoint

namespace Text

/-- Whether no code point of a text is a surrogate. -/
def IsProper (t : Text) : Prop := ∀ c ∈ t, c.isSurrogate = false

instance (t : Text) : Decidable t.IsProper := List.decidableBAll _ _

/-- The octets of a text, code point by code point. -/
def utf8 (t : Text) : Bytes := t.flatMap CodePoint.utf8

@[simp] theorem utf8_nil : utf8 [] = [] := rfl

@[simp] theorem utf8_cons (c : CodePoint) (t : Text) : utf8 (c :: t) = c.utf8 ++ utf8 t := rfl

theorem IsProper.of_cons {c : CodePoint} {t : Text} (hproper : IsProper (c :: t)) :
    c.isSurrogate = false ∧ t.IsProper :=
  ⟨hproper c List.mem_cons_self, fun d hd => hproper d (List.mem_cons_of_mem c hd)⟩

theorem IsProper.toUtf8?_eq {t : Text} (hproper : t.IsProper) : t.toUtf8? = some t.utf8 := by
  induction t with
  | nil => rfl
  | cons c t ih =>
    obtain ⟨hc, ht⟩ := hproper.of_cons
    simp [toUtf8?, CodePoint.toUtf8?, hc, ih ht]

/-- As many octets as a text has code points continue no sequence. -/
theorem countP_not_isContinuation_utf8 (t : Text) :
    t.utf8.countP (fun b => !Bytes.isContinuation b) = t.length := by
  induction t with
  | nil => rfl
  | cons c t ih =>
    rw [utf8_cons, List.countP_append, c.countP_not_isContinuation_utf8, ih, List.length_cons, Nat.add_comm]

theorem any_utf8 (t : Text) (p : UInt8 → Bool) (hascii : ∀ b, p b = true → b.toNat < 0x80) :
    t.utf8.any p = t.any fun c => decide (c.val < 0x80) && p (CodePoint.octet c.val) := by
  simp only [utf8, List.any_flatMap, CodePoint.any_utf8 _ p hascii]

/-- One text begins another exactly where its UTF-8 does. -/
theorem utf8_prefix_iff {part whole : Text} (hpart : part.IsProper) (hwhole : whole.IsProper) :
    part.utf8 <+: whole.utf8 ↔ part <+: whole := by
  induction part generalizing whole with
  | nil => simp
  | cons c part ih =>
    obtain ⟨hc, htail⟩ := hpart.of_cons
    obtain ⟨first, others, hoctets, -⟩ := c.exists_utf8_eq_cons
    cases whole with
    | nil => simp [hoctets]
    | cons d whole =>
      obtain ⟨hd, hrest⟩ := hwhole.of_cons
      rw [List.cons_prefix_cons, utf8_cons, utf8_cons]
      constructor
      · rintro ⟨behind, heq⟩
        rw [List.append_assoc] at heq
        obtain rfl := CodePoint.eq_of_utf8_append_eq hc hd heq
        exact ⟨rfl, (ih htail hrest).1 ⟨behind, List.append_cancel_left heq⟩⟩
      · rintro ⟨rfl, hbegins⟩
        exact (List.prefix_append_right_inj _).2 ((ih htail hrest).2 hbegins)

/-- What begins with the first octet of a code point is not found among octets that continue a sequence,
    nor does it begin there. -/
theorem infix_of_infix_append {first : UInt8} {part tail rest : Bytes}
    (hfirst : Bytes.isContinuation first = false) (htail : ∀ b ∈ tail, Bytes.isContinuation b = true)
    (hfound : first :: part <:+: tail ++ rest) : first :: part <:+: rest := by
  induction tail with
  | nil => exact hfound
  | cons b tail ih =>
    rw [List.cons_append, List.infix_cons_iff] at hfound
    obtain hbegins | hfound := hfound
    · obtain ⟨rfl, -⟩ := List.cons_prefix_cons.1 hbegins
      rw [htail first List.mem_cons_self] at hfirst
      cases hfirst
    · exact ih (fun b' hb' => htail b' (List.mem_cons_of_mem b hb')) hfound

/-- One text is found in another exactly where its UTF-8 is: no octet within a code point looks like the
    beginning of one. -/
theorem utf8_infix_iff {part whole : Text} (hpart : part.IsProper) (hwhole : whole.IsProper) :
    part.utf8 <:+: whole.utf8 ↔ part <:+: whole := by
  cases part with
  | nil => simp
  | cons c part =>
    induction whole with
    | nil =>
      obtain ⟨first, tail, hoctets, -⟩ := c.exists_utf8_eq_cons
      simp [hoctets]
    | cons d whole ih =>
      obtain ⟨-, hrest⟩ := hwhole.of_cons
      rw [List.infix_cons_iff, ← utf8_prefix_iff hpart hwhole, ← ih hrest]
      constructor
      · intro hfound
        obtain ⟨first, tail, hoctets, hfirst, -⟩ := c.exists_utf8_eq_cons
        obtain ⟨start, following, hoctets', -, hfollowing⟩ := d.exists_utf8_eq_cons
        rw [utf8_cons d, hoctets', List.cons_append, List.infix_cons_iff] at hfound
        obtain hbegins | hfound := hfound
        · exact .inl (by rwa [utf8_cons d, hoctets', List.cons_append])
        · rw [utf8_cons c, hoctets, List.cons_append] at hfound ⊢
          exact .inr (infix_of_infix_append hfirst hfollowing hfound)
      · rintro (hbegins | hfound)
        · exact hbegins.isInfix
        · exact hfound.trans (List.suffix_append d.utf8 (utf8 whole)).isInfix

end Text

end CredentialStore
