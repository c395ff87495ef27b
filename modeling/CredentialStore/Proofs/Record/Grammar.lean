import Mathlib.Data.List.DropRight
import CredentialStore.Record.Basic
import CredentialStore.Store.Rewrite
import CredentialStore.Text.RoundTrip

namespace CredentialStore

/-- `core` is what is left of `whole` without the octets of `set` at its end. -/
structure Bytes.EndCut (set whole core : Bytes) : Prop where
  exists_append : ∃ tail, whole = core ++ tail ∧ ∀ x ∈ tail, x ∈ set
  getLast_notMem : ∀ x ∈ core.getLast?, x ∉ set

/-- `core` is what is left of `whole` without the octets of `set` at either end. -/
structure Bytes.EndsCut (set whole core : Bytes) : Prop where
  exists_append : ∃ front tail, whole = front ++ (core ++ tail) ∧ (∀ x ∈ front, x ∈ set) ∧ ∀ x ∈ tail, x ∈ set
  head_notMem : ∀ x ∈ core.head?, x ∉ set
  getLast_notMem : ∀ x ∈ core.getLast?, x ∉ set

namespace Record

/-- Carriage return and line feed. -/
def lineEnds : Bytes := [0x0D, 0x0A]

/-- Space, tab, line feed, vertical tab, form feed and carriage return. -/
def whiteSpace : Bytes := [0x20, 0x09, 0x0A, 0x0B, 0x0C, 0x0D]

/-- What makes a line a record, for the line without its line ends: it is three fields, cut at the only two
    colons, none of them empty and the last not even when its white space is taken away. -/
structure Fits (body identity realm token : Bytes) : Prop where
  eq_append : body = identity ++ Token.colon :: (realm ++ Token.colon :: token)
  count_colon : body.count Token.colon = 2
  identity_ne_nil : identity ≠ []
  realm_ne_nil : realm ≠ []
  exists_notMem : ∃ x ∈ token, x ∉ whiteSpace

theorem isLineEnd_iff (x : UInt8) : isLineEnd x = true ↔ x ∈ lineEnds := by
  simp [isLineEnd, lineEnds]

theorem isSpace_iff (x : UInt8) : isSpace x = true ↔ x ∈ whiteSpace := by
  simp only [isSpace, whiteSpace, Bool.or_eq_true, Bool.and_eq_true, decide_eq_true_eq, List.mem_cons,
    List.not_mem_nil, or_false, UInt8.le_iff_toNat_le, ← UInt8.toNat_inj, UInt8.reduceToNat]
  omega

section Trimming

variable {drop : UInt8 → Bool}

theorem dropEnd_append_of_pos {x : UInt8} (hx : drop x = true) (b : Bytes) :
    dropEnd drop (b ++ [x]) = dropEnd drop b :=
  List.rdropWhile_concat_pos drop b x hx

/-- Octets of which the last is not dropped are left as they are. -/
theorem dropEnd_eq_self {b : Bytes} (hlast : ∀ x ∈ b.getLast?, drop x = false) : dropEnd drop b = b := by
  refine List.rdropWhile_eq_self_iff.2 fun hne => ?_
  simpa using hlast (b.getLast hne) (List.getLast_mem_getLast? hne)

theorem getLast?_dropEnd (b : Bytes) : ∀ x ∈ (dropEnd drop b).getLast?, drop x = false := by
  intro x hx
  obtain ⟨hne, rfl⟩ := List.mem_getLast?_eq_getLast hx
  rw [← Bool.not_eq_true]
  exact List.rdropWhile_last_not drop b hne

theorem head?_dropWhile (b : Bytes) : ∀ x ∈ (b.dropWhile drop).head?, drop x = false := by
  intro x hx
  have hfirst := List.head?_dropWhile_not drop b
  rw [Option.mem_def.1 hx] at hfirst
  simpa using hfirst

theorem endCut_dropEnd {set : Bytes} (hdrop : ∀ x, drop x = true ↔ x ∈ set) (whole : Bytes) :
    Bytes.EndCut set whole (dropEnd drop whole) := by
  refine ⟨⟨whole.rtakeWhile drop, ?_, fun x hx => ?_⟩, fun x hx => ?_⟩
  · exact (List.rdropWhile_append_rtakeWhile).symm
  · exact (hdrop x).1 (List.mem_rtakeWhile_imp hx)
  · rw [← hdrop, getLast?_dropEnd whole x hx]
    exact Bool.false_ne_true

theorem stripped_eq_self {b : Bytes} (hhead : ∀ x ∈ b.head?, isSpace x = false)
    (hlast : ∀ x ∈ b.getLast?, isSpace x = false) : stripped b = b := by
  have hfront : b.dropWhile isSpace = b := by
    cases b with
    | nil => rfl
    | cons x rest => exact List.dropWhile_cons_of_neg (by simp [hhead x rfl])
  rw [stripped, hfront]
  exact dropEnd_eq_self hlast

theorem head?_stripped (b : Bytes) : ∀ x ∈ (stripped b).head?, isSpace x = false := by
  intro x hx
  obtain ⟨tail, htail⟩ := List.rdropWhile_prefix isSpace (b.dropWhile isSpace)
  refine head?_dropWhile b x ?_
  rw [← htail]
  exact List.mem_head?_append_of_mem_head? hx

theorem getLast?_stripped (b : Bytes) : ∀ x ∈ (stripped b).getLast?, isSpace x = false :=
  getLast?_dropEnd (b.dropWhile isSpace)

theorem stripped_stripped (b : Bytes) : stripped (stripped b) = stripped b :=
  stripped_eq_self (head?_stripped b) (getLast?_stripped b)

theorem endsCut_stripped (whole : Bytes) : Bytes.EndsCut whiteSpace whole (stripped whole) := by
  have hclear : ∀ x, isSpace x = false → x ∉ whiteSpace := fun x hx => by
    rw [← isSpace_iff, hx]
    exact Bool.false_ne_true
  obtain ⟨⟨tail, htail, hspace⟩, -⟩ := endCut_dropEnd isSpace_iff (whole.dropWhile isSpace)
  refine ⟨⟨whole.takeWhile isSpace, tail, ?_, fun x hx => ?_, hspace⟩, fun x hx => ?_, fun x hx => ?_⟩
  · rw [stripped, ← htail, List.takeWhile_append_dropWhile]
  · exact (isSpace_iff x).1 (List.mem_takeWhile_imp hx)
  · exact hclear x (head?_stripped whole x hx)
  · exact hclear x (getLast?_stripped whole x hx)

theorem stripped_ne_nil_iff (b : Bytes) : stripped b ≠ [] ↔ ∃ x ∈ b, x ∉ whiteSpace := by
  have hall : stripped b = [] ↔ ∀ x ∈ b, isSpace x = true := by
    rw [← List.dropWhile_eq_nil_iff]
    constructor
    · intro hnil
      cases hrest : b.dropWhile isSpace with
      | nil => rfl
      | cons x rest =>
        have hspace := List.rdropWhile_eq_nil_iff.1 hnil x (by rw [hrest]; exact List.mem_cons_self)
        rw [@head?_dropWhile isSpace b x (by rw [hrest]; rfl)] at hspace
        cases hspace
    · intro hrest
      rw [stripped, hrest]
      rfl
  rw [ne_eq, hall]
  push Not
  simp only [← isSpace_iff, ne_eq]

end Trimming

theorem fields_ne_nil (b : Bytes) : fields b ≠ [] := by
  cases b with
  | nil => simp [fields]
  | cons x rest =>
    rw [fields]
    split
    · simp
    · split <;> simp

theorem fields_of_notMem {b : Bytes} (hfree : Token.colon ∉ b) : fields b = [b] := by
  induction b with
  | nil => rfl
  | cons x rest ih =>
    rw [List.mem_cons, not_or] at hfree
    rw [fields, if_neg (Ne.symm hfree.1), ih hfree.2]

theorem fields_append {b : Bytes} (hfree : Token.colon ∉ b) (rest : Bytes) :
    fields (b ++ Token.colon :: rest) = b :: fields rest := by
  induction b with
  | nil => rw [List.nil_append, fields, if_pos rfl]
  | cons x tail ih =>
    rw [List.mem_cons, not_or] at hfree
    rw [List.cons_append, fields, if_neg (Ne.symm hfree.1), ih hfree.2]

/-- The first piece has no colon, and the other pieces are those of what stands after its colon. -/
theorem of_fields_cons {b piece : Bytes} {pieces : List Bytes} (hfields : fields b = piece :: pieces) :
    Token.colon ∉ piece ∧
      ((pieces = [] ∧ b = piece) ∨ ∃ rest, b = piece ++ Token.colon :: rest ∧ fields rest = pieces) := by
  induction b generalizing piece with
  | nil =>
    cases hfields
    exact ⟨List.not_mem_nil, Or.inl ⟨rfl, rfl⟩⟩
  | cons x tail ih =>
    rw [fields] at hfields
    split at hfields
    · rename_i hx
      cases hfields
      exact ⟨List.not_mem_nil, Or.inr ⟨tail, by rw [hx]; rfl, rfl⟩⟩
    · rename_i hx
      cases htail : fields tail with
      | nil => exact absurd htail (fields_ne_nil tail)
      | cons first others =>
        rw [htail] at hfields
        cases hfields
        obtain ⟨hfree, ⟨rfl, rfl⟩ | ⟨rest, rfl, rfl⟩⟩ := ih htail
        · exact ⟨by simp [Ne.symm hx, hfree], Or.inl ⟨rfl, rfl⟩⟩
        · exact ⟨by simp [Ne.symm hx, hfree], Or.inr ⟨rest, rfl, rfl⟩⟩

theorem eq_append_of_fields {b identity realm token : Bytes} (hfields : fields b = [identity, realm, token]) :
    b = identity ++ Token.colon :: (realm ++ Token.colon :: token) ∧
      Token.colon ∉ identity ∧ Token.colon ∉ realm ∧ Token.colon ∉ token := by
  obtain ⟨hidentity, ⟨hnil, -⟩ | ⟨rest, rfl, hrest⟩⟩ := of_fields_cons hfields
  · cases hnil
  obtain ⟨hrealm, ⟨hnil, -⟩ | ⟨last, rfl, hlast⟩⟩ := of_fields_cons hrest
  · cases hnil
  obtain ⟨htoken, ⟨-, rfl⟩ | ⟨more, -, hmore⟩⟩ := of_fields_cons hlast
  · exact ⟨rfl, hidentity, hrealm, htoken⟩
  · exact absurd hmore (fields_ne_nil more)

section Fitting

variable {line body identity realm token : Bytes} {r : Record}

theorem toLine?_eq (hidentity : r.identity.toBytes? = some identity)
    (hrealm : r.realm.toBytes? = some realm) (htoken : r.token.toBytes? = some token) :
    r.toLine? = some (identity ++ Token.colon :: (realm ++ Token.colon ::
      (token ++ [Rewrite.lineFeed]))) := by
  rw [toLine?, hidentity, hrealm, htoken]
  rfl

/-- The line of a record ends with a line feed and is not empty before it. -/
theorem exists_front_of_toLine? (hline : r.toLine? = some line) :
    ∃ front, front ≠ [] ∧ line = front ++ [Rewrite.lineFeed] := by
  simp only [toLine?, Option.bind_eq_bind, Option.bind_eq_some_iff] at hline
  obtain ⟨identity, -, realm, -, token, -, hline⟩ := hline
  cases hline
  exact ⟨identity ++ Token.colon :: (realm ++ Token.colon :: token), by simp, by simp [Rewrite.lineFeed]⟩

theorem fits_of_notMem (hidentity : identity ≠ [] ∧ Token.colon ∉ identity)
    (hrealm : realm ≠ [] ∧ Token.colon ∉ realm) (htoken : stripped token ≠ [] ∧ Token.colon ∉ token) :
    Fits (identity ++ Token.colon :: (realm ++ Token.colon :: token)) identity realm token := by
  refine ⟨rfl, ?_, hidentity.1, hrealm.1, (stripped_ne_nil_iff token).1 htoken.1⟩
  simp [List.count_eq_zero.2 hidentity.2, List.count_eq_zero.2 hrealm.2, List.count_eq_zero.2 htoken.2]

theorem Fits.colon_notMem (hfits : Fits body identity realm token) :
    Token.colon ∉ identity ∧ Token.colon ∉ realm ∧ Token.colon ∉ token := by
  have hcount := hfits.count_colon
  rw [hfits.eq_append, List.count_append, List.count_cons_self, List.count_append,
    List.count_cons_self] at hcount
  simp only [← List.count_eq_zero]
  omega

/-- The fields still fit when the token has lost the white space around it. -/
theorem Fits.join (hfits : Fits body identity realm token) :
    Fits (identity ++ Token.colon :: (realm ++ Token.colon :: stripped token)) identity realm
      (stripped token) := by
  obtain ⟨hidentity, hrealm, htoken⟩ := hfits.colon_notMem
  obtain ⟨front, tail, heq, -, -⟩ := (endsCut_stripped token).exists_append
  have hfree : Token.colon ∉ stripped token := fun hmem => htoken (by rw [heq]; simp [hmem])
  refine fits_of_notMem ⟨hfits.identity_ne_nil, hidentity⟩ ⟨hfits.realm_ne_nil, hrealm⟩ ⟨?_, hfree⟩
  rw [stripped_stripped]
  exact (stripped_ne_nil_iff token).2 hfits.exists_notMem

theorem Fits.parse_eq (hfits : Fits (dropEnd isLineEnd line) identity realm token) :
    parse line = some ⟨Bytes.toText identity, Bytes.toText realm, Bytes.toText (stripped token)⟩ := by
  obtain ⟨hidentity, hrealm, htoken⟩ := hfits.colon_notMem
  have hfields : fields (dropEnd isLineEnd line) = [identity, realm, token] := by
    rw [hfits.eq_append, fields_append hidentity, fields_append hrealm, fields_of_notMem htoken]
  rw [parse, hfields]
  simp only [List.isEmpty_iff, hfits.identity_ne_nil, hfits.realm_ne_nil,
    (stripped_ne_nil_iff token).2 hfits.exists_notMem, Bool.or_eq_true, or_self, if_false]

theorem exists_fits_of_parse (hparse : parse line = some r) :
    ∃ identity realm token, Fits (dropEnd isLineEnd line) identity realm token := by
  rw [parse] at hparse
  split at hparse
  · rename_i identity realm token hfields
    simp only at hparse
    split at hparse
    · cases hparse
    · rename_i hsome
      simp only [Bool.or_eq_true, List.isEmpty_iff, not_or] at hsome
      obtain ⟨⟨hidentity, hrealm⟩, htoken⟩ := hsome
      obtain ⟨heq, hcolon, hcolon', hfree⟩ := eq_append_of_fields hfields
      refine ⟨identity, realm, token, ?_⟩
      rw [heq]
      exact fits_of_notMem ⟨hidentity, hcolon⟩ ⟨hrealm, hcolon'⟩ ⟨htoken, hfree⟩
  · cases hparse

/-- Fields that are put together in a line are read again when there is no white space to take away. -/
theorem Fits.parse_join (hfits : Fits body identity realm token) (hstripped : stripped token = token) :
    parse (identity ++ Token.colon :: (realm ++ Token.colon :: (token ++ [Rewrite.lineFeed]))) =
      some ⟨Bytes.toText identity, Bytes.toText realm, Bytes.toText token⟩ := by
  have hfront : identity ++ Token.colon :: (realm ++ Token.colon :: (token ++ [Rewrite.lineFeed])) =
      body ++ [Rewrite.lineFeed] := by
    simp [hfits.eq_append]
  -- no octet of white space is last, and so no line end is
  have hkept : dropEnd isLineEnd body = body := by
    refine dropEnd_eq_self fun x hx => ?_
    have hne : token ≠ [] := by
      rw [← hstripped]
      exact (stripped_ne_nil_iff token).2 hfits.exists_notMem
    have hlast : x ∈ (stripped token).getLast? := by
      rw [hfits.eq_append] at hx
      simpa [hstripped, List.getLast?_append, List.getLast?_cons, List.getLast?_eq_some_getLast hne] using hx
    have hsubset : lineEnds ⊆ whiteSpace := by decide
    have hclear := getLast?_stripped token x hlast
    rw [← Bool.not_eq_true, isSpace_iff] at hclear
    rw [← Bool.not_eq_true, isLineEnd_iff]
    exact fun hend => hclear (hsubset hend)
  rw [hfront]
  have hend : dropEnd isLineEnd (body ++ [Rewrite.lineFeed]) = body := by
    rw [dropEnd_append_of_pos (by decide), hkept]
  rw [← hend] at hfits
  rw [hfits.parse_eq, hstripped]

end Fitting

/-- The lines that are records are those that fit the grammar, and the record of a line is written as the
    fields of the line, the last of them trimmed, and read again. -/
theorem parse_iff_fits (line : Bytes) :
    ∃ body, Bytes.EndCut lineEnds line body ∧
      ((parse line).isSome = true ↔ ∃ identity realm token, Fits body identity realm token) ∧
      ∀ r, parse line = some r → ∃ identity realm token core,
        Fits body identity realm token ∧ Bytes.EndsCut whiteSpace token core ∧
        r.toLine? = some (identity ++ Token.colon :: (realm ++ Token.colon ::
          (core ++ [Rewrite.lineFeed]))) ∧
        r.toLine?.bind parse = some r := by
  refine ⟨dropEnd isLineEnd line, endCut_dropEnd isLineEnd_iff line, ⟨fun hsome => ?_, ?_⟩,
    fun r hparse => ?_⟩
  · obtain ⟨r, hparse⟩ := Option.isSome_iff_exists.1 hsome
    exact exists_fits_of_parse hparse
  · rintro ⟨identity, realm, token, hfits⟩
    rw [hfits.parse_eq]
    rfl
  · obtain ⟨identity, realm, token, hfits⟩ := exists_fits_of_parse hparse
    obtain rfl := Option.some.inj (hfits.parse_eq.symm.trans hparse)
    have hline := toLine?_eq (r := ⟨Bytes.toText identity, Bytes.toText realm, Bytes.toText (stripped token)⟩)
      (Bytes.toBytes?_toText identity) (Bytes.toBytes?_toText realm) (Bytes.toBytes?_toText (stripped token))
    refine ⟨identity, realm, token, stripped token, hfits, endsCut_stripped token, hline, ?_⟩
    rw [hline, Option.bind_some]
    exact hfits.join.parse_join (stripped_stripped token)

end Record

end CredentialStore
