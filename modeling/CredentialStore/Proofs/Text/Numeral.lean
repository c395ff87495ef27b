import CredentialStore.Text.Numeral
import Mathlib.Data.List.DropRight

namespace CredentialStore.Numeral

def underscore : CodePoint := CodePoint.ofChar '_'

def IsDigit (radix : Radix) (c : CodePoint) : Prop := ∃ d, digitValue? c = some d ∧ d < radix.size

/-- Digits with at most one underscore between each two. -/
inductive Digits (radix : Radix) : Text → Prop
  | single {c : CodePoint} (hdigit : IsDigit radix c) : Digits radix [c]
  | cons {c : CodePoint} {rest : Text} (hdigit : IsDigit radix c) (hrest : Digits radix rest) :
      Digits radix (c :: rest)
  | joined {c : CodePoint} {rest : Text} (hdigit : IsDigit radix c) (hrest : Digits radix rest) :
      Digits radix (c :: underscore :: rest)

/-- Nothing, or a zero and a letter of the base, which one underscore may follow. -/
def IsMark (radix : Radix) (mark : Text) : Prop :=
  mark = [] ∨ ∃ letter ∈ radix.marks,
    mark = [CodePoint.ofChar '0', letter] ∨ mark = [CodePoint.ofChar '0', letter, underscore]

/-- The parts of a text that is spelled as a numeral, once it is plain. -/
structure Spelled (radix : Radix) (t front sign mark digits back : Text) : Prop where
  eq_append : t.map plain = front ++ (sign ++ (mark ++ digits) ++ back)
  front : ∀ c ∈ front, c.isAsciiSpace = true
  sign : sign = [] ∨ sign = text "-" ∨ sign = text "+"
  mark : IsMark radix mark
  digits : Digits radix digits
  back : ∀ c ∈ back, c.isAsciiSpace = true

variable {radix : Radix} {c : CodePoint} {t rest : Text}

theorem not_isDigit_underscore : ¬IsDigit radix underscore := by
  rintro ⟨d, hvalue, -⟩
  cases hvalue

theorem range_of_isDigit (hdigit : IsDigit radix c) :
    (0x30 ≤ c.val ∧ c.val ≤ 0x39) ∨ (0x41 ≤ c.val ∧ c.val ≤ 0x46) ∨ (0x61 ≤ c.val ∧ c.val ≤ 0x66) := by
  obtain ⟨d, hvalue, -⟩ := hdigit
  unfold digitValue? at hvalue
  split at hvalue
  · omega
  · split at hvalue
    · omega
    · split at hvalue
      · omega
      · cases hvalue

theorem isAsciiSpace_of_isDigit (hdigit : IsDigit radix c) : c.isAsciiSpace = false := by
  have hrange := range_of_isDigit hdigit
  rw [CodePoint.isAsciiSpace, Bool.or_eq_false_iff, Bool.and_eq_false_iff]
  simp only [decide_eq_false_iff_not]
  omega

theorem not_sign_of_isDigit (hdigit : IsDigit radix c) :
    c ≠ CodePoint.ofChar '-' ∧ c ≠ CodePoint.ofChar '+' := by
  have hrange := range_of_isDigit hdigit
  constructor
  · rintro rfl
    exact absurd hrange (by decide)
  · rintro rfl
    exact absurd hrange (by decide)

theorem digits_cons_iff : Digits radix (c :: rest) ↔ IsDigit radix c ∧
    (rest = [] ∨ Digits radix rest ∨ ∃ more, rest = underscore :: more ∧ Digits radix more) := by
  constructor
  · intro hdigits
    cases hdigits with
    | single hdigit => exact ⟨hdigit, .inl rfl⟩
    | cons hdigit hrest => exact ⟨hdigit, .inr (.inl hrest)⟩
    | joined hdigit hrest => exact ⟨hdigit, .inr (.inr ⟨_, rfl, hrest⟩)⟩
  · rintro ⟨hdigit, rfl | hrest | ⟨more, rfl, hrest⟩⟩
    · exact .single hdigit
    · exact .cons hdigit hrest
    · exact .joined hdigit hrest

theorem Digits.exists_last (hdigits : Digits radix t) : ∃ front c, t = front ++ [c] ∧ IsDigit radix c := by
  induction hdigits with
  | single hdigit => exact ⟨[], _, rfl, hdigit⟩
  | cons _ _ ih =>
    obtain ⟨front, c, rfl, hdigit⟩ := ih
    exact ⟨_ :: front, c, rfl, hdigit⟩
  | joined _ _ ih =>
    obtain ⟨front, c, rfl, hdigit⟩ := ih
    exact ⟨_ :: underscore :: front, c, rfl, hdigit⟩

/-- Digits are read to their end; after a digit there may also be none, or an underscore before more. -/
theorem isSome_digitsAfter?_iff (value : Nat) (t : Text) :
    ((digitsAfter? radix.size value false t).isSome ↔ Digits radix t) ∧
      ((digitsAfter? radix.size value true t).isSome ↔
        t = [] ∨ Digits radix t ∨ ∃ more, t = underscore :: more ∧ Digits radix more) := by
  induction t generalizing value with
  | nil =>
    refine ⟨⟨fun hsome => (by cases hsome), fun hdigits => (by cases hdigits)⟩, ?_⟩
    exact ⟨fun _ => .inl rfl, fun _ => rfl⟩
  | cons c rest ih =>
    by_cases hunderscore : c = underscore
    · subst hunderscore
      have hnot : ¬Digits radix (underscore :: rest) := fun hdigits =>
        not_isDigit_underscore (digits_cons_iff.1 hdigits).1
      refine ⟨⟨fun hsome => (by cases hsome), fun hdigits => absurd hdigits hnot⟩, ?_⟩
      have hread : digitsAfter? radix.size value true (underscore :: rest) =
          digitsAfter? radix.size value false rest := rfl
      rw [hread, (ih value).1]
      constructor
      · exact fun hrest => .inr (.inr ⟨rest, rfl, hrest⟩)
      · rintro (hnil | hdigits | ⟨more, hmore, hdigits⟩)
        · cases hnil
        · exact absurd hdigits hnot
        · cases hmore
          exact hdigits
    · have hjoined : ¬∃ more, c :: rest = underscore :: more ∧ Digits radix more := by
        rintro ⟨more, hmore, -⟩
        exact hunderscore (List.cons.inj hmore).1
      suffices hread : ∀ joinable, (digitsAfter? radix.size value joinable (c :: rest)).isSome ↔
          Digits radix (c :: rest) by
        refine ⟨hread false, (hread true).trans ⟨fun hdigits => .inr (.inl hdigits), ?_⟩⟩
        rintro (hnil | hdigits | hmore)
        · cases hnil
        · exact hdigits
        · exact absurd hmore hjoined
      intro joinable
      rw [digits_cons_iff, digitsAfter?, if_neg (show c ≠ CodePoint.ofChar '_' from hunderscore)]
      cases hvalue : digitValue? c with
      | none =>
        refine ⟨fun hsome => (by cases hsome), ?_⟩
        rintro ⟨⟨d, hdigit, -⟩, -⟩
        cases hvalue.symm.trans hdigit
      | some d =>
        by_cases hlt : d < radix.size
        · simp only [if_pos hlt]
          rw [(ih _).2]
          exact ⟨fun hrest => ⟨⟨d, hvalue, hlt⟩, hrest⟩, And.right⟩
        · simp only [if_neg hlt]
          refine ⟨fun hsome => (by cases hsome), ?_⟩
          rintro ⟨⟨d', hdigit, hlt'⟩, -⟩
          cases hvalue.symm.trans hdigit
          exact absurd hlt' hlt

theorem not_isDigit_of_mem_marks {letter : CodePoint} (hletter : letter ∈ radix.marks) :
    letter ≠ underscore ∧ ¬IsDigit radix letter := by
  have hall : radix.marks.all (fun c => c ≠ underscore ∧ digitValue? c = none) = true := by
    cases radix <;> decide
  obtain ⟨hne, hnone⟩ := of_decide_eq_true (List.all_eq_true.1 hall letter hletter)
  refine ⟨hne, ?_⟩
  rintro ⟨d, hvalue, -⟩
  cases hnone.symm.trans hvalue

theorem exists_isMark (radix : Radix) (t : Text) :
    ∃ mark, IsMark radix mark ∧ t = mark ++ withoutMark radix t := by
  unfold withoutMark
  split
  · rename_i first letter rest
    split
    · rename_i hmark
      obtain ⟨rfl, hletter⟩ := hmark
      split
      · rename_i c digits
        split
        · rename_i hunderscore
          rw [hunderscore]
          exact ⟨_, .inr ⟨letter, hletter, .inr rfl⟩, rfl⟩
        · exact ⟨_, .inr ⟨letter, hletter, .inl rfl⟩, rfl⟩
      · exact ⟨_, .inr ⟨letter, hletter, .inl rfl⟩, rfl⟩
    · exact ⟨[], .inl rfl, rfl⟩
  · exact ⟨[], .inl rfl, rfl⟩

/-- A mark before digits is dropped, and it is nothing that belongs to the digits. -/
theorem withoutMark_append {mark digits : Text} (hmark : IsMark radix mark) (hdigits : Digits radix digits) :
    withoutMark radix (mark ++ digits) = digits := by
  obtain ⟨c, rest, rfl⟩ : ∃ c rest, digits = c :: rest := by
    cases hdigits <;> exact ⟨_, _, rfl⟩
  obtain ⟨hdigit, hrest⟩ := digits_cons_iff.1 hdigits
  have hne : c ≠ CodePoint.ofChar '_' := by
    rintro rfl
    exact not_isDigit_underscore hdigit
  obtain rfl | ⟨letter, hletter, rfl | rfl⟩ := hmark
  · have hunmarked : ∀ d ∈ rest.head?, d ∉ radix.marks := by
      intro d hd hmem
      obtain ⟨hne', hnot⟩ := not_isDigit_of_mem_marks hmem
      obtain rfl | hmore | ⟨more, rfl, -⟩ := hrest
      · cases hd
      · cases hmore <;> cases hd <;> exact hnot ‹_›
      · cases hd
        exact hne' rfl
    cases rest with
    | nil => rfl
    | cons d more => simp [withoutMark, hunmarked d rfl]
  · simp [withoutMark, hletter, hne]
  · simp [withoutMark, hletter, underscore]

/-- A numeral without a sign begins with a digit: the zero of the mark, or the first of its digits. -/
theorem exists_first {mark digits : Text} (hmark : IsMark radix mark) (hdigits : Digits radix digits) :
    ∃ c rest, mark ++ digits = c :: rest ∧ IsDigit radix c := by
  have hzero : IsDigit radix (CodePoint.ofChar '0') := ⟨0, rfl, by cases radix <;> decide⟩
  obtain rfl | ⟨letter, -, rfl | rfl⟩ := hmark
  · cases hdigits with
    | single hdigit => exact ⟨_, _, rfl, hdigit⟩
    | cons hdigit _ => exact ⟨_, _, rfl, hdigit⟩
    | joined hdigit _ => exact ⟨_, _, rfl, hdigit⟩
  · exact ⟨_, _, rfl, hzero⟩
  · exact ⟨_, _, rfl, hzero⟩

theorem isSome_unsigned?_iff : (unsigned? radix t).isSome ↔
    ∃ mark digits, t = mark ++ digits ∧ IsMark radix mark ∧ Digits radix digits := by
  rw [unsigned?, (isSome_digitsAfter?_iff 0 _).1]
  constructor
  · intro hdigits
    obtain ⟨mark, hmark, heq⟩ := exists_isMark radix t
    exact ⟨mark, _, heq, hmark, hdigits⟩
  · rintro ⟨mark, digits, rfl, hmark, hdigits⟩
    rwa [withoutMark_append hmark hdigits]

theorem exists_trimmed (t : Text) : ∃ front back, t = front ++ (trimmed t ++ back) ∧
    (∀ c ∈ front, c.isAsciiSpace = true) ∧ ∀ c ∈ back, c.isAsciiSpace = true := by
  refine ⟨t.takeWhile CodePoint.isAsciiSpace,
    (t.dropWhile CodePoint.isAsciiSpace).rtakeWhile CodePoint.isAsciiSpace, ?_, ?_, ?_⟩
  · have hend := List.rdropWhile_append_rtakeWhile
      (p := CodePoint.isAsciiSpace) (l := t.dropWhile CodePoint.isAsciiSpace)
    rw [show trimmed t = (t.dropWhile CodePoint.isAsciiSpace).rdropWhile CodePoint.isAsciiSpace from rfl, hend,
      List.takeWhile_append_dropWhile]
  · exact fun c hc => List.mem_takeWhile_imp hc
  · exact fun c hc => List.mem_rtakeWhile_imp hc

theorem trimmed_append {front core back : Text} (hfront : ∀ c ∈ front, c.isAsciiSpace = true)
    (hback : ∀ c ∈ back, c.isAsciiSpace = true) (hhead : ∀ c ∈ core.head?, c.isAsciiSpace = false)
    (hlast : ∀ c ∈ core.getLast?, c.isAsciiSpace = false) (hne : core ≠ []) :
    trimmed (front ++ (core ++ back)) = core := by
  have hdrop : (front ++ (core ++ back)).dropWhile CodePoint.isAsciiSpace = core ++ back := by
    rw [List.dropWhile_append_of_pos hfront]
    obtain ⟨c, rest, rfl⟩ := List.exists_cons_of_ne_nil hne
    exact List.dropWhile_cons_of_neg (by simp [hhead c rfl])
  rw [trimmed, hdrop, List.reverse_append, List.dropWhile_append_of_pos (by simpa using hback)]
  have hreverse : core.reverse.dropWhile CodePoint.isAsciiSpace = core.reverse := by
    obtain ⟨c, rest, hcons⟩ := List.exists_cons_of_ne_nil (List.reverse_ne_nil_iff.2 hne)
    have hc : c.isAsciiSpace = false := hlast c (by rw [← List.head?_reverse, hcons]; rfl)
    rw [hcons]
    exact List.dropWhile_cons_of_neg (by simp [hc])
  rw [hreverse, List.reverse_reverse]

theorem Spelled.trimmed_eq {front sign mark digits back : Text}
    (hspelled : Spelled radix t front sign mark digits back) :
    trimmed (t.map plain) = sign ++ (mark ++ digits) := by
  obtain ⟨first, more, hfirst, hdigit⟩ := exists_first hspelled.mark hspelled.digits
  obtain ⟨init, last, hlast, hdigit'⟩ := hspelled.digits.exists_last
  have hsign : ∀ c ∈ sign, c.isAsciiSpace = false := by
    obtain hsign | hsign | hsign := hspelled.sign
    · rw [hsign]
      exact List.forall_mem_nil _
    · rw [hsign]
      exact List.forall_mem_singleton.2 rfl
    · rw [hsign]
      exact List.forall_mem_singleton.2 rfl
  rw [hspelled.eq_append]
  refine trimmed_append hspelled.front hspelled.back ?_ ?_ ?_
  · intro c hc
    rw [hfirst] at hc
    cases hcase : sign with
    | nil =>
      rw [hcase] at hc
      cases hc
      exact isAsciiSpace_of_isDigit hdigit
    | cons s rest =>
      rw [hcase] at hc
      cases hc
      exact hsign _ (by simp [hcase])
  · intro c hc
    rw [hlast, ← List.append_assoc, ← List.append_assoc, List.getLast?_concat] at hc
    cases hc
    exact isAsciiSpace_of_isDigit hdigit'
  · rw [hfirst]
    simp

/-- A minus sign changes the integer and not whether there is one. -/
theorem isSome_toInt?_minus (h : trimmed (t.map plain) = CodePoint.ofChar '-' :: rest) :
    (toInt? radix t).isSome = (unsigned? radix rest).isSome := by
  rw [toInt?, h]
  cases hunsigned : unsigned? radix rest <;> simp [hunsigned]

theorem isSome_toInt?_plus (h : trimmed (t.map plain) = CodePoint.ofChar '+' :: rest) :
    (toInt? radix t).isSome = (unsigned? radix rest).isSome := by
  have hne : CodePoint.ofChar '+' ≠ CodePoint.ofChar '-' := by decide
  simp only [toInt?, h, if_neg hne, if_true, Option.isSome_map]

theorem isSome_toInt?_unsigned (h : trimmed (t.map plain) = c :: rest)
    (hsign : c ≠ CodePoint.ofChar '-' ∧ c ≠ CodePoint.ofChar '+') :
    (toInt? radix t).isSome = (unsigned? radix (c :: rest)).isSome := by
  simp only [toInt?, h, if_neg hsign.1, if_neg hsign.2, Option.isSome_map]

/-- An integer is read from a text exactly where the text is a numeral. -/
theorem isSome_toInt?_iff : (toInt? radix t).isSome ↔
    ∃ front sign mark digits back, Spelled radix t front sign mark digits back := by
  constructor
  · intro hsome
    obtain ⟨front, back, heq, hfront, hback⟩ := exists_trimmed (t.map plain)
    -- What is read after the sign decides the shape; only the sign differs between the three cases.
    have hspelled : ∀ sign core, trimmed (t.map plain) = sign ++ core → (unsigned? radix core).isSome →
        (sign = [] ∨ sign = text "-" ∨ sign = text "+") →
        ∃ front sign mark digits back, Spelled radix t front sign mark digits back := by
      intro sign core hcore hunsigned hsign
      obtain ⟨mark, digits, rfl, hmark, hdigits⟩ := isSome_unsigned?_iff.1 hunsigned
      rw [hcore] at heq
      exact ⟨front, sign, mark, digits, back, heq, hfront, hsign, hmark, hdigits, hback⟩
    cases htrimmed : trimmed (t.map plain) with
    | nil =>
      rw [toInt?, htrimmed] at hsome
      cases hsome
    | cons c rest =>
      by_cases hminus : c = CodePoint.ofChar '-'
      · subst hminus
        rw [isSome_toInt?_minus htrimmed] at hsome
        exact hspelled (text "-") rest htrimmed hsome (.inr (.inl rfl))
      · by_cases hplus : c = CodePoint.ofChar '+'
        · subst hplus
          rw [isSome_toInt?_plus htrimmed] at hsome
          exact hspelled (text "+") rest htrimmed hsome (.inr (.inr rfl))
        · rw [isSome_toInt?_unsigned htrimmed ⟨hminus, hplus⟩] at hsome
          exact hspelled [] (c :: rest) htrimmed hsome (.inl rfl)
  · rintro ⟨front, sign, mark, digits, back, hspelled⟩
    have htrimmed := hspelled.trimmed_eq
    have hunsigned : (unsigned? radix (mark ++ digits)).isSome :=
      isSome_unsigned?_iff.2 ⟨mark, digits, rfl, hspelled.mark, hspelled.digits⟩
    obtain rfl | rfl | rfl := hspelled.sign
    · obtain ⟨c, rest, hfirst, hdigit⟩ := exists_first hspelled.mark hspelled.digits
      rw [List.nil_append, hfirst] at htrimmed
      rw [isSome_toInt?_unsigned htrimmed (not_sign_of_isDigit hdigit), ← hfirst]
      exact hunsigned
    · rw [isSome_toInt?_minus htrimmed]
      exact hunsigned
    · rw [isSome_toInt?_plus htrimmed]
      exact hunsigned

end CredentialStore.Numeral
