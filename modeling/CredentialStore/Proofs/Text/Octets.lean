import CredentialStore.Text.RoundTrip

namespace CredentialStore

namespace Text

/-- Whether every code point of a text is an ASCII one. -/
def IsAscii (t : Text) : Prop := ∀ c ∈ t, c.val < 0x80

/-- Whether a text is what some bytes are read as. -/
def IsDecoded (t : Text) : Prop := ∃ b, Bytes.toText b = t

theorem toBytes?_append (a b : Text) :
    (a ++ b).toBytes? = a.toBytes?.bind fun x => b.toBytes?.map (x ++ ·) := by
  induction a with
  | nil => simp [toBytes?]
  | cons c rest ih =>
    simp only [List.cons_append, toBytes?, ih]
    cases c.toBytes? <;> cases toBytes? rest <;> cases b.toBytes? <;> simp

theorem IsDecoded.toText_eq {t : Text} (hdecoded : t.IsDecoded) {b : Bytes}
    (hbytes : t.toBytes? = some b) : Bytes.toText b = t := by
  obtain ⟨read, rfl⟩ := hdecoded
  rw [Bytes.toBytes?_toText] at hbytes
  cases hbytes
  rfl

theorem IsDecoded.exists_toBytes? {t : Text} (hdecoded : t.IsDecoded) :
    ∃ b, t.toBytes? = some b := by
  obtain ⟨read, rfl⟩ := hdecoded
  exact ⟨read, Bytes.toBytes?_toText read⟩

end Text

namespace CodePoint

theorem le_of_mem_utf8 {c : CodePoint} (hc : 0x80 ≤ c.val) {x : UInt8} (hx : x ∈ c.utf8) :
    0x80 ≤ x.toNat := by
  have hlt := c.isLt
  rw [utf8] at hx
  split at hx
  · omega
  · split at hx
    · simp only [List.mem_cons, List.not_mem_nil, or_false] at hx
      rcases hx with rfl | rfl <;> simp only [octet, UInt8.toNat_ofNat'] <;> omega
    · split at hx
      · simp only [List.mem_cons, List.not_mem_nil, or_false] at hx
        rcases hx with rfl | rfl | rfl <;> simp only [octet, UInt8.toNat_ofNat'] <;> omega
      · simp only [List.mem_cons, List.not_mem_nil, or_false] at hx
        rcases hx with rfl | rfl | rfl | rfl <;> simp only [octet, UInt8.toNat_ofNat'] <;> omega

theorem toBytes?_of_lt {c : CodePoint} (hc : c.val < 0x80) : c.toBytes? = some [octet c.val] := by
  rw [toBytes?_of_not_isSurrogate (by omega), utf8, if_pos hc]

theorem le_of_strayOctet? {c : CodePoint} {x : UInt8} (hstray : c.strayOctet? = some x) :
    0x80 ≤ x.toNat := by
  rw [strayOctet?] at hstray
  split at hstray
  · rename_i hrange
    have hx : x.toNat = (c.val - 0xDC00) % 256 := by
      rw [← Option.some.inj hstray]
      exact UInt8.toNat_ofNat'
    omega
  · simp at hstray

/-- An ASCII octet is written for the code point of its number alone. -/
theorem val_eq_of_mem_toBytes? {c : CodePoint} {b : Bytes} (hbytes : c.toBytes? = some b) {x : UInt8}
    (hx : x ∈ b) (hascii : x.toNat < 0x80) : c.val = x.toNat := by
  by_cases hc : c.val < 0x80
  · rw [toBytes?_of_lt hc] at hbytes
    cases hbytes
    rw [List.mem_singleton] at hx
    subst hx
    simp only [octet, UInt8.toNat_ofNat']
    omega
  · rw [toBytes?] at hbytes
    cases hstray : c.strayOctet? with
    | some stray =>
      rw [hstray] at hbytes
      obtain rfl : [stray] = b := Option.some.inj hbytes
      obtain rfl : x = stray := List.mem_singleton.1 hx
      have hle := le_of_strayOctet? hstray
      omega
    | none =>
      rw [hstray] at hbytes
      simp only [toUtf8?] at hbytes
      split at hbytes
      · cases hbytes
      · cases hbytes
        have hle := le_of_mem_utf8 (Nat.le_of_not_lt hc) hx
        omega

theorem utf8_ne_nil (c : CodePoint) : c.utf8 ≠ [] := by
  simp only [utf8]
  split
  · exact List.cons_ne_nil _ _
  · split
    · exact List.cons_ne_nil _ _
    · split <;> exact List.cons_ne_nil _ _

theorem toBytes?_ne_nil {c : CodePoint} {b : Bytes} (hbytes : c.toBytes? = some b) : b ≠ [] := by
  rw [toBytes?] at hbytes
  split at hbytes
  · cases hbytes
    exact List.cons_ne_nil _ _
  · rw [toUtf8?] at hbytes
    split at hbytes
    · cases hbytes
    · cases hbytes
      exact c.utf8_ne_nil

end CodePoint

namespace Text

theorem toBytes?_ne_nil {t : Text} {b : Bytes} (hne : t ≠ []) (hbytes : t.toBytes? = some b) : b ≠ [] := by
  cases t with
  | nil => exact absurd rfl hne
  | cons c rest =>
    obtain ⟨head, hhead, hbytes⟩ := Option.bind_eq_some_iff.1 hbytes
    obtain ⟨tail, -, hbytes⟩ := Option.bind_eq_some_iff.1 hbytes
    cases hbytes
    exact List.append_ne_nil_of_left_ne_nil (CodePoint.toBytes?_ne_nil hhead) tail

/-- An ASCII octet of a text is there because its code point is. -/
theorem mem_of_mem_toBytes? {t : Text} {b : Bytes} (hbytes : t.toBytes? = some b) {x : UInt8}
    (hx : x ∈ b) (hascii : x.toNat < 0x80) : ∃ c ∈ t, c.val = x.toNat := by
  induction t generalizing b with
  | nil =>
    cases hbytes
    simp at hx
  | cons c rest ih =>
    rw [toBytes?] at hbytes
    obtain ⟨head, hhead, hbytes⟩ := Option.bind_eq_some_iff.1 hbytes
    obtain ⟨tail, htail, hbytes⟩ := Option.bind_eq_some_iff.1 hbytes
    cases hbytes
    rcases List.mem_append.1 hx with hx | hx
    · exact ⟨c, List.mem_cons_self, CodePoint.val_eq_of_mem_toBytes? hhead hx hascii⟩
    · obtain ⟨d, hd, hval⟩ := ih htail hx
      exact ⟨d, List.mem_cons_of_mem c hd, hval⟩

theorem IsAscii.toBytes?_eq {t : Text} (hascii : t.IsAscii) :
    t.toBytes? = some (t.map fun c => CodePoint.octet c.val) := by
  induction t with
  | nil => rfl
  | cons c rest ih =>
    have hrest : IsAscii rest := fun d hd => hascii d (List.mem_cons_of_mem c hd)
    simp [toBytes?, CodePoint.toBytes?_of_lt (hascii c List.mem_cons_self), ih hrest]

end Text

namespace Bytes

theorem toText_of_lt {b : Bytes} (hascii : ∀ x ∈ b, x.toNat < 0x80) :
    toText b = b.map fun x => Fin.ofNat 0x110000 x.toNat := by
  induction b with
  | nil => rfl
  | cons x rest ih =>
    have hx : x < 0x80 := UInt8.lt_iff_toNat_lt.2 (hascii x List.mem_cons_self)
    have hrest := ih fun y hy => hascii y (List.mem_cons_of_mem x hy)
    have hfirst : firstCodePoint x rest = (Fin.ofNat 0x110000 x.toNat, 0) := by
      rw [firstCodePoint.eq_def, if_pos hx]
    rw [toText, toTextAfter]
    simp only [hfirst, List.map_cons]
    exact congrArg _ hrest

end Bytes

theorem CodePoint.toBytes?_of_toUtf8? {c : CodePoint} {b : Bytes} (hutf8 : c.toUtf8? = some b) :
    c.toBytes? = some b := by
  rw [toUtf8?] at hutf8
  split at hutf8
  · cases hutf8
  · rename_i hsurrogate
    have hrange : c.val < 0xD800 ∨ 0xDFFF < c.val := by
      simp only [isSurrogate, Bool.and_eq_true, decide_eq_true_eq] at hsurrogate
      omega
    rw [toBytes?_of_not_isSurrogate hrange]
    exact hutf8

theorem Text.toBytes?_of_toUtf8? {t : Text} {b : Bytes} (hutf8 : t.toUtf8? = some b) :
    t.toBytes? = some b := by
  induction t generalizing b with
  | nil => exact hutf8
  | cons c rest ih =>
    rw [toUtf8?] at hutf8
    obtain ⟨head, hhead, hutf8⟩ := Option.bind_eq_some_iff.1 hutf8
    obtain ⟨tail, htail, hutf8⟩ := Option.bind_eq_some_iff.1 hutf8
    rw [toBytes?, CodePoint.toBytes?_of_toUtf8? hhead, ih htail]
    exact hutf8

/-- An ASCII text is what its bytes are read as. -/
theorem Text.IsAscii.isDecoded {t : Text} (hascii : t.IsAscii) : t.IsDecoded := by
  refine ⟨t.map fun c => CodePoint.octet c.val, ?_⟩
  have hoctet : ∀ c ∈ t, (CodePoint.octet c.val).toNat = c.val := by
    intro c hc
    have hlt := hascii c hc
    rw [CodePoint.octet, UInt8.toNat_ofNat']
    omega
  rw [Bytes.toText_of_lt, List.map_map]
  · refine (List.map_congr_left fun c hc => ?_).trans (List.map_id t)
    apply Fin.ext
    simp only [Function.comp_apply, hoctet c hc, id_eq]
    exact Bytes.val_ofNat c.isLt
  · intro x hx
    obtain ⟨c, hc, rfl⟩ := List.mem_map.1 hx
    rw [hoctet c hc]
    exact hascii c hc

end CredentialStore
