import CredentialStore.Proofs.Digest.Token
import CredentialStore.Proofs.Log.Reader
import CredentialStore.Proofs.Text.Decoded
import CredentialStore.Proofs.Text.Utf8

namespace CredentialStore

namespace Log

namespace Json

variable {reading reading' : Reading} {around : List Frame} {rest : Text}

/-- A text that begins with no part of a word. -/
def Ends (rest : Text) : Prop := ∀ c ∈ rest.head?, isPlain c = false

theorem after_plain {w w' : Text} (hplain : ∀ c ∈ w', isPlain c = true) (rest : Text) :
    Reader.after { lexing := .word w, reading } (w' ++ rest) =
      Reader.after { lexing := .word (w ++ w'), reading } rest := by
  induction w' generalizing w with
  | nil => rw [List.append_nil, List.nil_append]
  | cons c more ih =>
    obtain ⟨hc, hmore⟩ := List.forall_mem_cons.1 hplain
    have hnext : Reader.next { lexing := .word w, reading } c =
        some { lexing := .word (w ++ [c]), reading } := by
      simp only [Reader.next, hc, if_true]
    rw [List.cons_append, Reader.after, hnext, Option.bind_some, ih hmore, List.append_assoc,
      List.singleton_append]

/-- A word is complete where no part of a word follows. -/
theorem after_settled {r : Reader} {w : Text} (hword : r.lexing = .word w)
    (hsettled : r.settled? = some reading) (hends : Ends rest) : r.after rest = reading.reader.after rest := by
  have hreader : reading.reader.settled? = some reading := rfl
  cases rest with
  | nil => simp only [Reader.after, hsettled, hreader]
  | cons c more =>
    have hc : isPlain c = false := hends c rfl
    have hnext : r.next c = reading.part c := by
      simp only [Reader.next, hword, hc, Bool.false_eq_true, if_false, hsettled, Option.bind_some]
    have hnext' : reading.reader.next c = reading.part c := by
      simp only [Reader.next, Reading.reader, hc, Bool.false_eq_true, if_false]
      exact congrArg (Option.bind · (·.part c)) hreader
    rw [Reader.after, Reader.after, hnext, hnext']

/-- A word is read as its value. -/
theorem after_word {w : Text} {v : Value} (hne : w ≠ []) (hplain : ∀ c ∈ w, isPlain c = true)
    (hvalue : word? w = some v) (hnext : reading.next (.scalar v) = some reading') (hends : Ends rest) :
    reading.reader.after (w ++ rest) = reading'.reader.after rest := by
  have hsettled : Reader.settled? { lexing := .word w, reading } = some reading' := by
    obtain ⟨c, more, rfl⟩ := List.exists_cons_of_ne_nil hne
    simp only [Reader.settled?, hvalue, Option.bind_some, hnext]
  calc reading.reader.after (w ++ rest)
    _ = Reader.after { lexing := .word w, reading } rest := after_plain hplain rest
    _ = reading'.reader.after rest := after_settled rfl hsettled hends

/-- White space and marks are no part of a word. -/
theorem after_part {c : CodePoint} {r : Reader} (hc : isPlain c = false) (hpart : reading.part c = some r)
    (rest : Text) : reading.reader.after (c :: rest) = r.after rest := by
  have hnext : reading.reader.next c = reading.part c := by
    simp only [Reader.next, Reading.reader, hc, Bool.false_eq_true, if_false]
    rfl
  rw [Reader.after, hnext, hpart, Option.bind_some]

theorem after_mark {c : CodePoint} {symbol : Symbol} (hmark : (c, symbol) ∈ marks)
    (hnext : reading.next symbol = some reading') (rest : Text) :
    reading.reader.after (c :: rest) = reading'.reader.after rest := by
  have hall : marks.all (fun m => isPlain m.1 = false ∧ isBlank m.1 = false ∧ m.1 ≠ CodePoint.ofChar '"' ∧
      marks.lookup m.1 = some m.2) = true := by decide
  obtain ⟨hplain, hblank, hquote, hlookup⟩ := of_decide_eq_true (List.all_eq_true.1 hall _ hmark)
  refine after_part hplain ?_ rest
  rw [Reading.part, hblank, if_neg Bool.false_ne_true, if_neg hquote, hlookup, Option.bind_some, hnext,
    Option.map_some]

theorem after_blank (rest : Text) :
    reading.reader.after (CodePoint.ofChar ' ' :: rest) = reading.reader.after rest :=
  after_part rfl rfl rest

theorem ends_cons {c : CodePoint} (hc : isPlain c = false) (rest : Text) : Ends (c :: rest) := by
  intro d hd
  cases hd
  exact hc

theorem digitValue?_hexDigit (n : Nat) : Numeral.digitValue? (Text.hexDigit n) = some (n % 16) := by
  have hall : ∀ k < 16, Numeral.digitValue? (CodePoint.ofChar (Nat.digitChar k)) = some k := by decide
  exact hall (n % 16) (Nat.mod_lt n (by omega))

/-- Inside of a string, at the end of what was read. -/
def inside (reading : Reading) (q : Quoted) : Reader := { lexing := .quoted q, reading }

theorem after_inside {q q' : Quoted} {c : CodePoint} (hnext : q.next c = some (.inr q')) (rest : Text) :
    (inside reading q).after (c :: rest) = (inside reading q').after rest := by
  have hreader : (inside reading q).next c = some (inside reading q') := by
    simp only [Reader.next, inside, hnext, Option.bind_some]
  rw [Reader.after, hreader, Option.bind_some]

theorem next_hexDigit (q : Quoted) (left value n : Nat) :
    Quoted.next { q with escape := .digits (left + 1) value } (Text.hexDigit n) =
      some (.inr { q with escape := .digits left (16 * value + n % 16) }) := by
  simp only [Quoted.next, digitValue?_hexDigit, Option.map_some]

theorem next_last_hexDigit (q : Quoted) (value n : Nat) :
    Quoted.next { q with escape := .digits 0 value } (Text.hexDigit n) =
      some (.inr (q.addUnit (16 * value + n % 16))) := by
  simp only [Quoted.next, digitValue?_hexDigit, Option.map_some]
  rfl

/-- The escape of a unit adds it. -/
theorem after_unitEscape {q : Quoted} (houtside : q.escape = .outside) {n : Nat} (hn : n < 0x10000)
    (rest : Text) :
    (inside reading q).after (unitEscape n ++ rest) = (inside reading (q.addUnit n)).after rest := by
  have hdigits : unitEscape n ++ rest = CodePoint.ofChar '\\' :: CodePoint.ofChar 'u' ::
      Text.hexDigit (n / 16 / 16 / 16) :: Text.hexDigit (n / 16 / 16) :: Text.hexDigit (n / 16) ::
      Text.hexDigit n :: rest := rfl
  have hbegun : q.next (CodePoint.ofChar '\\') = some (.inr { q with escape := .begun }) := by
    rw [Quoted.next, houtside]
    rfl
  have hunit : Quoted.next { q with escape := .begun } (CodePoint.ofChar 'u') =
      some (.inr { q with escape := .digits 3 0 }) := rfl
  have hvalue : 16 * (16 * (16 * (16 * 0 + n / 16 / 16 / 16 % 16) + n / 16 / 16 % 16) + n / 16 % 16) + n % 16 =
      n := by omega
  rw [hdigits, after_inside hbegun, after_inside hunit, after_inside (next_hexDigit q 2 _ _),
    after_inside (next_hexDigit q 1 _ _), after_inside (next_hexDigit q 0 _ _),
    after_inside (next_last_hexDigit q _ _), hvalue]

@[simp] theorem settled_read (t : Text) : Quoted.settled { read := t } = t := List.append_nil t

theorem ofNat_val (c : CodePoint) : Fin.ofNat 0x110000 c.val = c := Fin.ext (Nat.mod_eq_of_lt c.isLt)

theorem after_letter {t : Text} {letter c : CodePoint} (hletter : (letter, c) ∈ Quoted.letters) (rest : Text) :
    (inside reading { read := t }).after (CodePoint.ofChar '\\' :: letter :: rest) =
      (inside reading { read := t ++ [c] }).after rest := by
  have hbegun : Quoted.next { read := t } (CodePoint.ofChar '\\') =
      some (.inr { read := t, escape := .begun }) := rfl
  have hall : Quoted.letters.all (fun l => l.1 ≠ CodePoint.ofChar 'u' ∧
      Quoted.letters.lookup l.1 = some l.2) = true := by decide
  obtain ⟨hunit, hlookup⟩ := of_decide_eq_true (List.all_eq_true.1 hall _ hletter)
  have hadded : Quoted.next { read := t, escape := .begun } letter =
      some (.inr (Quoted.add { read := t, escape := .begun } c)) := by
    simp only [Quoted.next, if_neg hunit, hlookup, Option.map_some]
  have hread : Quoted.add { read := t, escape := .begun } c = { read := t ++ [c] } := by
    rw [Quoted.add, Quoted.settled, Option.map_none, Option.toList_none, List.append_nil]
  rw [after_inside hbegun, after_inside hadded, hread]

/-- A unit that is no half of a code point is the code point. -/
theorem addUnit_val {c : CodePoint} (hsurrogate : c.isSurrogate = false) (t : Text) :
    Quoted.addUnit { read := t } c.val = { read := t ++ [c] } := by
  simp only [CodePoint.isSurrogate, Bool.and_eq_false_iff, decide_eq_false_iff_not] at hsurrogate
  rw [Quoted.addUnit, if_neg (by omega), if_neg (by omega), Quoted.add, settled_read, ofNat_val]

/-- The halves of a code point give it back. -/
theorem addUnit_addUnit {c : CodePoint} (hc : 0x10000 ≤ c.val) (t : Text) :
    Quoted.addUnit (Quoted.addUnit { read := t } (0xD800 + (c.val - 0x10000) / 0x400))
      (0xDC00 + (c.val - 0x10000) % 0x400) = { read := t ++ [c] } := by
  have hlt := c.isLt
  have hvalue : 0x10000 + (0xD800 + (c.val - 0x10000) / 0x400 - 0xD800) * 0x400 +
      (0xDC00 + (c.val - 0x10000) % 0x400 - 0xDC00) = c.val := by omega
  have hhigh : Quoted.addUnit { read := t } (0xD800 + (c.val - 0x10000) / 0x400) =
      { read := t, high := some (0xD800 + (c.val - 0x10000) / 0x400) } := by
    rw [Quoted.addUnit, if_pos (by omega), settled_read]
  rw [hhigh, Quoted.addUnit, if_neg (by omega), if_pos (by omega)]
  simp only [hvalue, ofNat_val]

/-- A code point is escaped by a letter, stands for itself, or is written as one unit or as two halves. -/
theorem escape_cases (c : CodePoint) :
    (∃ letter, (letter, c) ∈ Quoted.letters ∧ escape c = [CodePoint.ofChar '\\', letter]) ∨
    (0x20 ≤ c.val ∧ c.val ≤ 0x7E ∧ c ≠ CodePoint.ofChar '"' ∧ c ≠ CodePoint.ofChar '\\' ∧ escape c = [c]) ∨
    (c.val < 0x10000 ∧ escape c = unitEscape c.val) ∨
    (0x10000 ≤ c.val ∧ escape c = unitEscape (0xD800 + (c.val - 0x10000) / 0x400) ++
      unitEscape (0xDC00 + (c.val - 0x10000) % 0x400)) := by
  generalize hescape : escape c = e
  have hletter : ∀ {letter d : CodePoint}, (letter, d) ∈ Quoted.letters → c = d →
      [CodePoint.ofChar '\\', letter] = e →
        ∃ letter, (letter, c) ∈ Quoted.letters ∧ e = [CodePoint.ofChar '\\', letter] := by
    rintro letter d hmem rfl rfl
    exact ⟨letter, hmem, rfl⟩
  unfold escape at hescape
  split_ifs at hescape with hquote hbackslash hfeed hreturn htab hback hform hprintable hunit
  · exact .inl (hletter (by decide) hquote hescape)
  · exact .inl (hletter (by decide) hbackslash hescape)
  · exact .inl (hletter (by decide) hfeed hescape)
  · exact .inl (hletter (by decide) hreturn hescape)
  · exact .inl (hletter (by decide) htab hescape)
  · exact .inl (hletter (by decide) (show c = 0x08 from Fin.ext hback) hescape)
  · exact .inl (hletter (by decide) (show c = 0x0C from Fin.ext hform) hescape)
  · exact .inr (.inl ⟨hprintable.1, hprintable.2, hquote, hbackslash, hescape.symm⟩)
  · exact .inr (.inr (.inl ⟨hunit, hescape.symm⟩))
  · exact .inr (.inr (.inr ⟨Nat.le_of_not_lt hunit, hescape.symm⟩))

/-- The escape of a code point is read as the code point. -/
theorem after_escape {c : CodePoint} (hsurrogate : c.isSurrogate = false) (t rest : Text) :
    (inside reading { read := t }).after (escape c ++ rest) =
      (inside reading { read := t ++ [c] }).after rest := by
  obtain ⟨letter, hletter, heq⟩ | ⟨hlow, -, hquote, hbackslash, heq⟩ | ⟨hlt, heq⟩ | ⟨hle, heq⟩ := escape_cases c
  · rw [heq]
    exact after_letter hletter rest
  · have hnext : Quoted.next { read := t } c = some (.inr { read := t ++ [c] }) := by
      simp only [Quoted.next, hquote, hbackslash, if_false, Quoted.add, settled_read,
        if_neg (show ¬c.val < 0x20 by omega)]
    rw [heq]
    exact after_inside hnext rest
  · rw [heq, after_unitEscape rfl hlt, addUnit_val hsurrogate]
  · have hlt := c.isLt
    have hhigh : (Quoted.addUnit { read := t } (0xD800 + (c.val - 0x10000) / 0x400)).escape = .outside := by
      rw [Quoted.addUnit, if_pos (by omega)]
    rw [heq, List.append_assoc, after_unitEscape rfl (by omega), after_unitEscape hhigh (by omega),
      addUnit_addUnit hle]

/-- The escapes of a text are read as the text. -/
theorem after_escaped {t : Text} (hproper : t.IsProper) (before rest : Text) :
    (inside reading { read := before }).after (t.flatMap escape ++ rest) =
      (inside reading { read := before ++ t }).after rest := by
  induction t generalizing before with
  | nil => rw [List.flatMap_nil, List.append_nil, List.nil_append]
  | cons c more ih =>
    obtain ⟨hc, hmore⟩ := List.forall_mem_cons.1 hproper
    rw [List.flatMap_cons, List.append_assoc, after_escape hc, ih hmore, List.append_assoc,
      List.singleton_append]

/-- A string is read as its text. -/
theorem after_string {t : Text} (hproper : t.IsProper)
    (hnext : reading.next (.scalar (.string t)) = some reading') (rest : Text) :
    reading.reader.after (string t ++ rest) = reading'.reader.after rest := by
  have hwhole : string t ++ rest =
      CodePoint.ofChar '"' :: (t.flatMap escape ++ CodePoint.ofChar '"' :: rest) := by
    rw [string, List.append_assoc, List.append_assoc]
    rfl
  have hclosed : (inside reading { read := t }).next (CodePoint.ofChar '"') = some reading'.reader := by
    have hread : Quoted.next { read := t } (CodePoint.ofChar '"') = some (.inl t) := by
      simp only [Quoted.next, if_true, settled_read]
    simp only [Reader.next, inside, hread, Option.bind_some, hnext, Option.map_some]
  calc reading.reader.after (string t ++ rest)
    _ = (inside reading {}).after (t.flatMap escape ++ CodePoint.ofChar '"' :: rest) := by
      rw [hwhole]
      exact after_part rfl rfl _
    _ = (inside reading { read := t }).after (CodePoint.ofChar '"' :: rest) := after_escaped hproper [] _
    _ = reading'.reader.after rest := by rw [Reader.after, hclosed, Option.bind_some]

theorem decimal_of_lt {n : Nat} (hn : n < 10) : Text.decimal n = [CodePoint.ofChar (Nat.digitChar n)] := by
  rw [Text.decimal, Nat.toDigits_of_lt_base hn]
  rfl

theorem decimal_of_le {n : Nat} (hn : 10 ≤ n) :
    Text.decimal n = Text.decimal (n / 10) ++ [CodePoint.ofChar (Nat.digitChar (n % 10))] := by
  rw [Text.decimal, Nat.toDigits_of_base_le (by decide) hn, List.map_append]
  rfl

theorem decimal_ne_nil (n : Nat) : Text.decimal n ≠ [] := by
  rw [Text.decimal, ne_eq, List.map_eq_nil_iff]
  exact Nat.toDigits_ne_nil

theorem mem_decimal {n : Nat} {c : CodePoint} (hc : c ∈ Text.decimal n) : c ∈ text "0123456789" := by
  have hall : ∀ k < 10, CodePoint.ofChar (Nat.digitChar k) ∈ text "0123456789" := by decide
  induction n using Nat.strongRecOn with
  | ind n ih =>
    by_cases hn : n < 10
    · rw [decimal_of_lt hn, List.mem_singleton] at hc
      rw [hc]
      exact hall n hn
    · rw [decimal_of_le (by omega), List.mem_append, List.mem_singleton] at hc
      obtain hc | rfl := hc
      · exact ih (n / 10) (by omega) hc
      · exact hall (n % 10) (by omega)

theorem extended?_digitChar (n : Nat) {k : Nat} (hk : k < 10) :
    extended? n (CodePoint.ofChar (Nat.digitChar k)) = some (10 * n + k) := by
  have hall : ∀ k < 10, (CodePoint.ofChar (Nat.digitChar k)).val = 0x30 + k := by decide
  rw [extended?, hall k hk, if_pos (by omega), Nat.add_sub_cancel_left]

theorem foldlM_decimal (n : Nat) : (Text.decimal n).foldlM extended? 0 = some n := by
  induction n using Nat.strongRecOn with
  | ind n ih =>
    by_cases hn : n < 10
    · rw [decimal_of_lt hn, List.foldlM_cons, extended?_digitChar 0 hn, Nat.mul_zero, Nat.zero_add]
      rfl
    · rw [decimal_of_le (by omega), List.foldlM_append, ih (n / 10) (by omega)]
      have hlast := extended?_digitChar (n / 10) (Nat.mod_lt n (show 10 > 0 by decide))
      rw [Nat.div_add_mod] at hlast
      simp [hlast]

/-- Only zero begins with the digit zero. -/
theorem head?_decimal {n : Nat} (hn : 0 < n) : CodePoint.ofChar '0' ∉ (Text.decimal n).head? := by
  have hall : ∀ k < 10, 0 < k → CodePoint.ofChar (Nat.digitChar k) ≠ CodePoint.ofChar '0' := by decide
  induction n using Nat.strongRecOn with
  | ind n ih =>
    by_cases hlt : n < 10
    · rw [decimal_of_lt hlt]
      exact fun hzero => hall n hlt hn (Option.some.inj hzero)
    · rw [decimal_of_le (by omega), List.head?_append_of_ne_nil _ (decimal_ne_nil _)]
      exact ih (n / 10) (by omega) (by omega)

theorem natural?_decimal (n : Nat) : natural? (Text.decimal n) = some n := by
  have hvalue := foldlM_decimal n
  cases hdecimal : Text.decimal n with
  | nil => exact absurd hdecimal (decimal_ne_nil n)
  | cons c rest =>
    rw [hdecimal] at hvalue
    rw [natural?, hvalue, if_neg]
    rintro ⟨rfl, hrest⟩
    have hzero : n = 0 := by
      by_contra hn
      exact head?_decimal (Nat.pos_of_ne_zero hn) (by rw [hdecimal]; rfl)
    subst hzero
    cases hdecimal
    exact hrest rfl

theorem mem_signedDecimal {n : Int} {c : CodePoint} (hc : c ∈ Text.signedDecimal n) :
    c ∈ text "-0123456789" := by
  have hsubset : text "0123456789" ⊆ text "-0123456789" := by decide
  cases n with
  | ofNat n => exact hsubset (mem_decimal hc)
  | negSucc n =>
    obtain rfl | hc := List.mem_cons.1 hc
    · decide
    · exact hsubset (mem_decimal hc)

theorem signedDecimal_ne_nil (n : Int) : Text.signedDecimal n ≠ [] := by
  cases n with
  | ofNat n => exact decimal_ne_nil n
  | negSucc n => exact List.cons_ne_nil _ _

theorem word?_signedDecimal (n : Int) : word? (Text.signedDecimal n) = some (.integer n) := by
  -- No letter is in it, so it is none of the words.
  have hletter : ∀ w : Text, ∀ c ∈ w, c ∉ text "-0123456789" → Text.signedDecimal n ≠ w := by
    rintro w c hc hnot rfl
    exact hnot (mem_signedDecimal hc)
  rw [word?.eq_def, if_neg (hletter _ (CodePoint.ofChar 'n') (by decide) (by decide)),
    if_neg (hletter _ (CodePoint.ofChar 't') (by decide) (by decide)),
    if_neg (hletter _ (CodePoint.ofChar 'f') (by decide) (by decide))]
  cases n with
  | ofNat n =>
    have hvalue := natural?_decimal n
    have hminus : CodePoint.ofChar '-' ∉ Text.decimal n := fun hmem =>
      absurd (mem_decimal hmem) (by decide)
    rw [Text.signedDecimal]
    cases hdecimal : Text.decimal n with
    | nil => exact absurd hdecimal (decimal_ne_nil n)
    | cons c rest =>
      rw [hdecimal] at hvalue hminus
      simp only [if_neg (show c ≠ CodePoint.ofChar '-' from fun h => hminus (h ▸ List.mem_cons_self)), hvalue]
      rfl
  | negSucc n =>
    have hvalue : (natural? (Text.decimal (n + 1))).map (fun n : Nat => Value.integer (-n)) =
        some (.integer (.negSucc n)) := by
      rw [natural?_decimal, Option.map_some]
      rfl
    exact hvalue

/-- A value may come next. -/
structure Awaits (reading : Reading) (around : List Frame) : Prop where
  scalar : ∀ v, reading.next (.scalar v) = some (.done v around)
  list : reading.next .listOpen = some (.itemOrEnd around)
  object : reading.next .objectOpen = some (.nameOrEnd around)

theorem awaits_item (around : List Frame) : Awaits (.item around) around := ⟨fun _ => rfl, rfl, rfl⟩

theorem awaits_itemOrEnd (around : List Frame) : Awaits (.itemOrEnd around) (.items [] :: around) :=
  ⟨fun _ => rfl, rfl, rfl⟩

/-- Whether a value is read from its rendering, wherever a value may come. -/
def Reads (v : Value) : Prop :=
  ∀ ⦃reading : Reading⦄ ⦃around : List Frame⦄ ⦃rest : Text⦄, Awaits reading around → Ends rest →
    reading.reader.after (value v ++ rest) = (Reading.done v around).reader.after rest

theorem reads_of_word {v : Value} {w : Text} (heq : value v = w) (hne : w ≠ []) (hplain : w.all isPlain = true)
    (hvalue : word? w = some v) : Reads v := by
  intro reading around rest hawaits hends
  rw [heq]
  exact after_word hne (List.all_eq_true.1 hplain) hvalue (hawaits.scalar v) hends

theorem reads_integer (n : Int) : Reads (.integer n) := by
  have hdigits : (text "-0123456789").all isPlain = true := by decide
  refine reads_of_word (value.eq_4 n) (signedDecimal_ne_nil n) ?_ (word?_signedDecimal n)
  exact List.all_eq_true.2 fun c hc => List.all_eq_true.1 hdigits c (mem_signedDecimal hc)

/-- The items of a list are read in order, up to the mark that closes it. -/
theorem after_items {items : List Value} (hreads : ∀ v ∈ items, Reads v) (hne : items ≠ [])
    {before : List Value} (hawaits : Awaits reading (.items before :: around)) (rest : Text) :
    reading.reader.after (Text.joined (text ", ") (values items) ++ CodePoint.ofChar ']' :: rest) =
      (Reading.done (.list (before ++ items)) around).reader.after rest := by
  induction items generalizing reading before with
  | nil => exact absurd rfl hne
  | cons v more ih =>
    obtain ⟨hv, hmore⟩ := List.forall_mem_cons.1 hreads
    cases more with
    | nil =>
      have hclosed : (Reading.done v (.items before :: around)).next .listClose =
          some (.done (.list (before ++ [v])) around) := rfl
      have hjoined : Text.joined (text ", ") (values [v]) = value v := rfl
      rw [hjoined, hv hawaits (ends_cons rfl rest), after_mark (by decide) hclosed]
    | cons w others =>
      have hparted : (Reading.done v (.items before :: around)).next .comma =
          some (.item (.items (before ++ [v]) :: around)) := rfl
      have hjoined : Text.joined (text ", ") (values (v :: w :: others)) ++ CodePoint.ofChar ']' :: rest =
          value v ++ CodePoint.ofChar ',' :: CodePoint.ofChar ' ' ::
            (Text.joined (text ", ") (values (w :: others)) ++ CodePoint.ofChar ']' :: rest) := by
        change value v ++ text ", " ++ Text.joined (text ", ") (values (w :: others)) ++ _ = _
        rw [List.append_assoc, List.append_assoc]
        rfl
      rw [hjoined, hv hawaits (ends_cons rfl _), after_mark (by decide) hparted, after_blank,
        ih hmore (List.cons_ne_nil w others) (awaits_item _), List.append_assoc, List.singleton_append]

/-- The members of an object are read in order, up to the mark that closes it. -/
theorem after_members {members : Fields} (hnames : ∀ f ∈ members, Text.IsProper f.1)
    (hreads : ∀ f ∈ members, Reads f.2) (hne : members ≠ []) {before : Fields}
    (hawaits : ∀ name, reading.next (.scalar (.string name)) = some (.colon before name around)) (rest : Text) :
    reading.reader.after (Text.joined (text ", ") (fields members) ++ CodePoint.ofChar '\x7d' :: rest) =
      (Reading.done (.object (before ++ members)) around).reader.after rest := by
  induction members generalizing reading before with
  | nil => exact absurd rfl hne
  | cons f more ih =>
    obtain ⟨name, v⟩ := f
    obtain ⟨hname, hmoreNames⟩ := List.forall_mem_cons.1 hnames
    obtain ⟨hv, hmore⟩ := List.forall_mem_cons.1 hreads
    have hcolon : (Reading.colon before name around).next .colon =
        some (.item (.member before name :: around)) := rfl
    have hmember : ∀ {rest : Text}, Ends rest → reading.reader.after (string name ++
        CodePoint.ofChar ':' :: CodePoint.ofChar ' ' :: (value v ++ rest)) =
          (Reading.done v (.member before name :: around)).reader.after rest := by
      intro rest hends
      rw [after_string hname (hawaits name), after_mark (by decide) hcolon, after_blank,
        hv (awaits_item _) hends]
    cases more with
    | nil =>
      have hclosed : (Reading.done v (.member before name :: around)).next .objectClose =
          some (.done (.object (before ++ [(name, v)])) around) := rfl
      have hjoined : Text.joined (text ", ") (fields [(name, v)]) ++ CodePoint.ofChar '\x7d' :: rest =
          string name ++ CodePoint.ofChar ':' :: CodePoint.ofChar ' ' ::
            (value v ++ CodePoint.ofChar '\x7d' :: rest) := by
        rw [fields, fields, Text.joined, List.append_assoc, List.append_assoc]
        rfl
      rw [hjoined, hmember (ends_cons rfl rest), after_mark (by decide) hclosed]
    | cons g others =>
      have hparted : (Reading.done v (.member before name :: around)).next .comma =
          some (.name (before ++ [(name, v)]) around) := rfl
      have hjoined : Text.joined (text ", ") (fields ((name, v) :: g :: others)) ++
          CodePoint.ofChar '\x7d' :: rest = string name ++ CodePoint.ofChar ':' :: CodePoint.ofChar ' ' ::
            (value v ++ CodePoint.ofChar ',' :: CodePoint.ofChar ' ' ::
              (Text.joined (text ", ") (fields (g :: others)) ++ CodePoint.ofChar '\x7d' :: rest)) := by
        change string name ++ text ": " ++ value v ++ text ", " ++
          Text.joined (text ", ") (fields (g :: others)) ++ _ = _
        rw [List.append_assoc, List.append_assoc, List.append_assoc, List.append_assoc]
        rfl
      rw [hjoined, hmember (ends_cons rfl _), after_mark (by decide) hparted, after_blank,
        ih hmoreNames hmore (List.cons_ne_nil g others) fun _ => rfl, List.append_assoc, List.singleton_append]

theorem reads_list {items : List Value} (hreads : ∀ v ∈ items, Reads v) : Reads (.list items) := by
  intro reading around rest hawaits hends
  have hvalue : value (.list items) ++ rest = CodePoint.ofChar '[' ::
      (Text.joined (text ", ") (values items) ++ CodePoint.ofChar ']' :: rest) := by
    rw [value, List.append_assoc, List.append_assoc]
    rfl
  rw [hvalue, after_mark (by decide) hawaits.list]
  cases items with
  | nil =>
    have hclosed : (Reading.itemOrEnd around).next .listClose = some (.done (.list []) around) := rfl
    exact after_mark (by decide) hclosed rest
  | cons v more => exact after_items hreads (List.cons_ne_nil v more) (awaits_itemOrEnd around) rest

theorem reads_object {members : Fields} (hnames : ∀ f ∈ members, Text.IsProper f.1)
    (hreads : ∀ f ∈ members, Reads f.2) : Reads (.object members) := by
  intro reading around rest hawaits hends
  have hvalue : value (.object members) ++ rest = CodePoint.ofChar '\x7b' ::
      (Text.joined (text ", ") (fields members) ++ CodePoint.ofChar '\x7d' :: rest) := by
    rw [value, List.append_assoc, List.append_assoc]
    rfl
  rw [hvalue, after_mark (by decide) hawaits.object]
  cases members with
  | nil =>
    have hclosed : (Reading.nameOrEnd around).next .objectClose = some (.done (.object []) around) := rfl
    exact after_mark (by decide) hclosed rest
  | cons f more =>
    have hname : ∀ name, (Reading.nameOrEnd around).next (.scalar (.string name)) =
        some (.colon [] name around) := fun _ => rfl
    exact after_members hnames hreads (List.cons_ne_nil f more) hname rest

end Json

/-- A value whose texts have no surrogates. -/
inductive Value.IsProper : Value → Prop
  | null : IsProper .null
  | boolean (b : Bool) : IsProper (.boolean b)
  | integer (n : Int) : IsProper (.integer n)
  | string {t : Text} (htext : t.IsProper) : IsProper (.string t)
  | list {items : List Value} (hitems : ∀ v ∈ items, IsProper v) : IsProper (.list items)
  | object {members : Fields} (hnames : ∀ f ∈ members, Text.IsProper f.1)
      (hvalues : ∀ f ∈ members, IsProper f.2) : IsProper (.object members)

namespace Json

theorem reads_of_isProper {v : Value} (hproper : v.IsProper) : Reads v := by
  induction hproper with
  | null => exact reads_of_word rfl (by decide) (by decide) rfl
  | boolean b =>
    cases b
    · exact reads_of_word rfl (by decide) (by decide) rfl
    · exact reads_of_word rfl (by decide) (by decide) rfl
  | integer n => exact reads_integer n
  | string htext => exact fun _ _ rest hawaits _ => after_string htext (hawaits.scalar _) rest
  | list _ ih => exact reads_list ih
  | object hnames _ ih => exact reads_object hnames ih

/-- A value is read from its rendering as it was. -/
theorem read?_value {v : Value} (hproper : v.IsProper) : read? (value v) = some v := by
  have hends : Ends [] := fun c hc => by cases hc
  calc read? (value v)
    _ = (Reading.item []).reader.after (value v ++ []) := by rw [List.append_nil]; rfl
    _ = (Reading.done v []).reader.after [] := reads_of_isProper hproper (awaits_item []) hends
    _ = some v := rfl

theorem haveWritable_iff {members : Fields} :
    haveWritable members = true ↔ ∀ f ∈ members, isWritable f.2 = true := by
  induction members with
  | nil => simp [haveWritable]
  | cons f rest ih => simp [haveWritable, ih]

theorem isWritable_object {members : Fields} :
    isWritable (.object members) = true ↔ ∀ f ∈ members, isWritable f.2 = true := by
  rw [isWritable, haveWritable_iff]

/-- Nothing but printable ASCII. -/
def IsPrintable (t : Text) : Prop := ∀ c ∈ t, 0x20 ≤ c.val ∧ c.val ≤ 0x7E

theorem isPrintable_of_all {t : Text} (hall : t.all (fun c => 0x20 ≤ c.val ∧ c.val ≤ 0x7E) = true) :
    IsPrintable t :=
  fun c hc => of_decide_eq_true (List.all_eq_true.1 hall c hc)

theorem isPrintable_append {a b : Text} : IsPrintable (a ++ b) ↔ IsPrintable a ∧ IsPrintable b :=
  List.forall_mem_append

theorem IsPrintable.of_subset {a b : Text} (hb : IsPrintable b) (hsubset : ∀ c ∈ a, c ∈ b) : IsPrintable a :=
  fun c hc => hb c (hsubset c hc)

theorem isPrintable_unitEscape (n : Nat) : IsPrintable (unitEscape n) := by
  have hdigits : IsPrintable (text "0123456789abcdef") := isPrintable_of_all (by decide)
  exact isPrintable_append.2 ⟨isPrintable_of_all (by decide), hdigits.of_subset fun c hc => Text.mem_hex hc⟩

theorem isPrintable_escape (c : CodePoint) : IsPrintable (escape c) := by
  obtain ⟨letter, hletter, heq⟩ | ⟨hlow, hhigh, -, -, heq⟩ | ⟨-, heq⟩ | ⟨-, heq⟩ := escape_cases c
  · have hall : (Quoted.letters.map Prod.fst).all (fun c => 0x20 ≤ c.val ∧ c.val ≤ 0x7E) = true := by decide
    have hprintable := isPrintable_of_all hall letter (List.mem_map.2 ⟨_, hletter, rfl⟩)
    rw [heq]
    exact List.forall_mem_cons.2 ⟨by decide, List.forall_mem_singleton.2 hprintable⟩
  · rw [heq]
    exact List.forall_mem_singleton.2 ⟨hlow, hhigh⟩
  · rw [heq]
    exact isPrintable_unitEscape c.val
  · rw [heq]
    exact isPrintable_append.2 ⟨isPrintable_unitEscape _, isPrintable_unitEscape _⟩

theorem isPrintable_string (t : Text) : IsPrintable (string t) := by
  have hquote : IsPrintable (text "\"") := isPrintable_of_all (by decide)
  refine isPrintable_append.2 ⟨isPrintable_append.2 ⟨hquote, fun c hc => ?_⟩, hquote⟩
  obtain ⟨d, -, hd⟩ := List.mem_flatMap.1 hc
  exact isPrintable_escape d c hd

theorem isPrintable_joined {ts : List Text} (hts : ∀ t ∈ ts, IsPrintable t) :
    IsPrintable (Text.joined (text ", ") ts) := by
  have hcomma : IsPrintable (text ", ") := isPrintable_of_all (by decide)
  induction ts with
  | nil => exact List.forall_mem_nil _
  | cons t more ih =>
    obtain ⟨ht, hmore⟩ := List.forall_mem_cons.1 hts
    cases more with
    | nil => exact ht
    | cons u others => exact isPrintable_append.2 ⟨isPrintable_append.2 ⟨ht, hcomma⟩, ih hmore⟩

theorem isPrintable_signedDecimal (n : Int) : IsPrintable (Text.signedDecimal n) := by
  have hdigits : IsPrintable (text "-0123456789") := isPrintable_of_all (by decide)
  exact hdigits.of_subset fun c hc => mem_signedDecimal hc

mutual

/-- Every value is rendered in printable ASCII. -/
theorem isPrintable_value : (v : Value) → IsPrintable (value v)
  | .null => isPrintable_of_all (by decide)
  | .boolean true => isPrintable_of_all (by decide)
  | .boolean false => isPrintable_of_all (by decide)
  | .integer n => by
    rw [value]
    exact isPrintable_signedDecimal n
  | .string t => by
    rw [value]
    exact isPrintable_string t
  | .list items => by
    rw [value]
    have hitems := isPrintable_joined (isPrintable_values items)
    exact isPrintable_append.2 ⟨isPrintable_append.2 ⟨isPrintable_of_all (by decide), hitems⟩,
      isPrintable_of_all (by decide)⟩
  | .object members => by
    rw [value]
    have hmembers := isPrintable_joined (isPrintable_fields members)
    exact isPrintable_append.2 ⟨isPrintable_append.2 ⟨isPrintable_of_all (by decide), hmembers⟩,
      isPrintable_of_all (by decide)⟩

theorem isPrintable_values : (items : List Value) → ∀ t ∈ values items, IsPrintable t
  | [] => by
    rw [values]
    exact List.forall_mem_nil _
  | v :: more => by
    rw [values]
    exact List.forall_mem_cons.2 ⟨isPrintable_value v, isPrintable_values more⟩

theorem isPrintable_fields : (members : Fields) → ∀ t ∈ fields members, IsPrintable t
  | [] => by
    rw [fields]
    exact List.forall_mem_nil _
  | (name, v) :: more => by
    rw [fields]
    refine List.forall_mem_cons.2 ⟨?_, isPrintable_fields more⟩
    exact isPrintable_append.2 ⟨isPrintable_append.2 ⟨isPrintable_string name, isPrintable_of_all (by decide)⟩,
      isPrintable_value v⟩

end

end Json

end Log

end CredentialStore
