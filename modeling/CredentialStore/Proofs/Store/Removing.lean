import CredentialStore.Proofs.Store.Sublines
import CredentialStore.Proofs.Store.Survivors

namespace CredentialStore.Record

variable {identity realm : Text} {line : Bytes} {ls : List Bytes}

/-- A line is no record, or a record of the key, or a record of another one. -/
theorem line_cases (identity realm : Text) (line : Bytes) :
    parse line = none ∧ isLineFor identity realm line = false ∨
      (parse line).isSome ∧ isLineFor identity realm line = true ∨
      (parse line).isSome ∧ isLineFor identity realm line = false := by
  cases hfor : isLineFor identity realm line with
  | true => exact .inr (.inl ⟨isSome_parse_of_isLineFor hfor, rfl⟩)
  | false =>
    cases hparse : parse line with
    | none => exact .inl ⟨rfl, rfl⟩
    | some record => exact .inr (.inr ⟨rfl, rfl⟩)

theorem survivors_cons_of_none (hparse : parse line = none) :
    survivors identity realm (line :: ls) = survivors identity realm ls := by
  simp [survivors, isLineFor, hparse]

theorem survivors_cons_of_isLineFor (hfor : isLineFor identity realm line = true) :
    survivors identity realm (line :: ls) = ls := by
  simp [survivors, hfor]

theorem survivors_cons_of_isSome (hparse : (parse line).isSome)
    (hfor : isLineFor identity realm line = false) :
    survivors identity realm (line :: ls) = line :: survivors identity realm ls := by
  simp [survivors, hfor, hparse]

theorem firstFor?_cons_of_false (hfor : isLineFor identity realm line = false) :
    firstFor? identity realm (line :: ls) = firstFor? identity realm ls := by
  simp [firstFor?, hfor]

theorem firstFor?_cons_of_isLineFor (hfor : isLineFor identity realm line = true) :
    firstFor? identity realm (line :: ls) = parse line := by
  simp [firstFor?, hfor]

/-- What survives stands in the order in which it stood. -/
theorem survivors_sublist (identity realm : Text) (ls : List Bytes) :
    (survivors identity realm ls).Sublist ls := by
  induction ls with
  | nil => exact List.Sublist.refl _
  | cons line rest ih =>
    obtain ⟨hparse, -⟩ | ⟨-, hfor⟩ | ⟨hparse, hfor⟩ := line_cases identity realm line
    · rw [survivors_cons_of_none hparse]
      exact ih.cons line
    · rw [survivors_cons_of_isLineFor hfor]
      exact List.sublist_cons_self line rest
    · rw [survivors_cons_of_isSome hparse hfor]
      exact ih.cons_cons line

/-- Where there is a first line of the key, all lines before it that are records survive and all lines
    after it. -/
theorem survivors_eq_of_firstFor? {record : Record}
    (hfound : firstFor? identity realm ls = some record) :
    ∃ front line back, ls = front ++ line :: back ∧ parse line = some record ∧
      (∀ other ∈ front, isLineFor identity realm other = false) ∧
      survivors identity realm ls = front.filter (fun other => (parse other).isSome) ++ back := by
  induction ls with
  | nil => cases hfound
  | cons first rest ih =>
    obtain ⟨hparse, hfor⟩ | ⟨-, hfor⟩ | ⟨hparse, hfor⟩ := line_cases identity realm first
    · rw [firstFor?_cons_of_false hfor] at hfound
      obtain ⟨front, line, back, rfl, hline, hfront, hsurvivors⟩ := ih hfound
      refine ⟨first :: front, line, back, rfl, hline, List.forall_mem_cons.2 ⟨hfor, hfront⟩, ?_⟩
      rw [survivors_cons_of_none hparse, hsurvivors, List.filter_cons_of_neg (by simp [hparse])]
    · rw [firstFor?_cons_of_isLineFor hfor] at hfound
      exact ⟨[], first, rest, rfl, hfound, by simp, survivors_cons_of_isLineFor hfor⟩
    · rw [firstFor?_cons_of_false hfor] at hfound
      obtain ⟨front, line, back, rfl, hline, hfront, hsurvivors⟩ := ih hfound
      refine ⟨first :: front, line, back, rfl, hline, List.forall_mem_cons.2 ⟨hfor, hfront⟩, ?_⟩
      rw [survivors_cons_of_isSome hparse hfor, hsurvivors, List.filter_cons_of_pos (by exact hparse)]
      rfl

/-- Where at most one line is of the key, none survives. -/
theorem isLineFor_eq_false_of_mem_survivors (hone : ls.countP (isLineFor identity realm) ≤ 1)
    (hline : line ∈ survivors identity realm ls) : isLineFor identity realm line = false := by
  induction ls with
  | nil => cases hline
  | cons first rest ih =>
    obtain ⟨hparse, hfor⟩ | ⟨-, hfor⟩ | ⟨hparse, hfor⟩ := line_cases identity realm first
    · rw [survivors_cons_of_none hparse] at hline
      rw [List.countP_cons_of_neg (by simp [hfor])] at hone
      exact ih hone hline
    · rw [survivors_cons_of_isLineFor hfor] at hline
      rw [List.countP_cons_of_pos hfor] at hone
      have hnone : rest.countP (isLineFor identity realm) = 0 := by omega
      simpa using List.countP_eq_zero.1 hnone line hline
    · rw [survivors_cons_of_isSome hparse hfor, List.mem_cons] at hline
      rw [List.countP_cons_of_neg (by simp [hfor])] at hone
      obtain rfl | hline := hline
      · exact hfor
      · exact ih hone hline

@[simp] theorem isLineFor_terminated (identity realm : Text) (line : Bytes) :
    isLineFor identity realm line.terminated = isLineFor identity realm line := by
  rw [isLineFor, isLineFor, parse_terminated]

theorem survivors_map_terminated (identity realm : Text) (ls : List Bytes) :
    survivors identity realm (ls.map Bytes.terminated) =
      (survivors identity realm ls).map Bytes.terminated := by
  induction ls with
  | nil => rfl
  | cons line rest ih =>
    rw [List.map_cons]
    obtain ⟨hparse, -⟩ | ⟨-, hfor⟩ | ⟨hparse, hfor⟩ := line_cases identity realm line
    · rw [survivors_cons_of_none (by rwa [parse_terminated]), ih, survivors_cons_of_none hparse]
    · rw [survivors_cons_of_isLineFor (by rwa [isLineFor_terminated]), survivors_cons_of_isLineFor hfor]
    · rw [survivors_cons_of_isSome (by rwa [parse_terminated]) (by rwa [isLineFor_terminated]), ih,
        survivors_cons_of_isSome hparse hfor, List.map_cons]

theorem firstFor?_map_terminated (identity realm : Text) (ls : List Bytes) :
    firstFor? identity realm (ls.map Bytes.terminated) = firstFor? identity realm ls := by
  induction ls with
  | nil => rfl
  | cons line rest ih =>
    rw [List.map_cons]
    cases hfor : isLineFor identity realm line with
    | true =>
      rw [firstFor?_cons_of_isLineFor (by rwa [isLineFor_terminated]), parse_terminated,
        firstFor?_cons_of_isLineFor hfor]
    | false =>
      rw [firstFor?_cons_of_false (by rwa [isLineFor_terminated]), ih, firstFor?_cons_of_false hfor]

/-- A record of another key at the end survives, whether or not a record is taken out before it. -/
theorem survivors_append_singleton (hparse : (parse line).isSome)
    (hfor : isLineFor identity realm line = false) :
    survivors identity realm (ls ++ [line]) = survivors identity realm ls ++ [line] := by
  induction ls with
  | nil => exact survivors_cons_of_isSome hparse hfor
  | cons first rest ih =>
    rw [List.cons_append]
    obtain ⟨hfirst, -⟩ | ⟨-, hfirst⟩ | ⟨hfirst, hfirst'⟩ := line_cases identity realm first
    · rw [survivors_cons_of_none hfirst, ih, survivors_cons_of_none hfirst]
    · rw [survivors_cons_of_isLineFor hfirst, survivors_cons_of_isLineFor hfirst]
    · rw [survivors_cons_of_isSome hfirst hfirst', ih, survivors_cons_of_isSome hfirst hfirst',
        List.cons_append]

theorem firstFor?_append_singleton (hfor : isLineFor identity realm line = false) :
    firstFor? identity realm (ls ++ [line]) = firstFor? identity realm ls := by
  induction ls with
  | nil => exact firstFor?_cons_of_false hfor
  | cons first rest ih =>
    rw [List.cons_append]
    cases hfirst : isLineFor identity realm first with
    | true => rw [firstFor?_cons_of_isLineFor hfirst, firstFor?_cons_of_isLineFor hfirst]
    | false => rw [firstFor?_cons_of_false hfirst, ih, firstFor?_cons_of_false hfirst]

/-- A record at the end is the first of its key where there is none before it. -/
theorem firstFor?_append_of_isLineFor (hnone : ∀ other ∈ ls, isLineFor identity realm other = false)
    (hfor : isLineFor identity realm line = true) :
    firstFor? identity realm (ls ++ [line]) = parse line := by
  induction ls with
  | nil => exact firstFor?_cons_of_isLineFor hfor
  | cons first rest ih =>
    obtain ⟨hfirst, hrest⟩ := List.forall_mem_cons.1 hnone
    rw [List.cons_append, firstFor?_cons_of_false hfirst, ih hrest]

theorem apart_survivors (identity realm : Text) (b : Bytes) :
    Bytes.Apart (survivors identity realm (Bytes.lines b)) :=
  (Bytes.apart_lines b).sublist (survivors_sublist identity realm _)

/-- A line that is added to what survives of octets stands on its own. -/
theorem lines_survivors_append (identity realm : Text) (b : Bytes) {line : Bytes}
    (hsingle : Bytes.lines line = [line]) :
    Bytes.lines (Bytes.terminated (survivors identity realm (Bytes.lines b)).flatten ++ line) =
      (survivors identity realm (Bytes.lines b)).map Bytes.terminated ++ [line] :=
  (apart_survivors identity realm b).lines_terminated_append hsingle

variable {identity' realm' : Text}

/-- A line is a record of one key only. -/
theorem isLineFor_of_ne (hkeys : (identity, realm) ≠ (identity', realm'))
    (hfor : isLineFor identity realm line = true) : isLineFor identity' realm' line = false := by
  cases hparse : parse line with
  | none => simp [isLineFor, hparse]
  | some record =>
    have hkey : record.identity = identity ∧ record.realm = realm := by
      simpa [isLineFor, hparse, isFor_iff] using hfor
    rw [← hkey.1, ← hkey.2, ne_eq, Prod.mk.injEq] at hkeys
    simpa [isLineFor, hparse, isFor] using hkeys

/-- Records of different keys can be taken out in either order. -/
theorem survivors_comm (hkeys : (identity, realm) ≠ (identity', realm')) (ls : List Bytes) :
    survivors identity realm (survivors identity' realm' ls) =
      survivors identity' realm' (survivors identity realm ls) := by
  induction ls with
  | nil => rfl
  | cons line rest ih =>
    obtain ⟨hparse, -⟩ | ⟨hparse, hfor⟩ | ⟨hparse, hfor⟩ := line_cases identity realm line
    · rw [survivors_cons_of_none hparse, survivors_cons_of_none hparse, ih]
    · have hfor' := isLineFor_of_ne hkeys hfor
      rw [survivors_cons_of_isSome hparse hfor', survivors_cons_of_isLineFor hfor,
        survivors_cons_of_isLineFor hfor]
    · cases hfor' : isLineFor identity' realm' line with
      | true =>
        rw [survivors_cons_of_isLineFor hfor', survivors_cons_of_isSome hparse hfor,
          survivors_cons_of_isLineFor hfor']
      | false =>
        rw [survivors_cons_of_isSome hparse hfor', survivors_cons_of_isSome hparse hfor,
          survivors_cons_of_isSome hparse hfor, survivors_cons_of_isSome hparse hfor', ih]

/-- Taking out a record of another key leaves the first of a key the first. -/
theorem firstFor?_survivors (hkeys : (identity, realm) ≠ (identity', realm')) (ls : List Bytes) :
    firstFor? identity realm (survivors identity' realm' ls) = firstFor? identity realm ls := by
  induction ls with
  | nil => rfl
  | cons line rest ih =>
    obtain ⟨hparse, hfor⟩ | ⟨hparse, hfor⟩ | ⟨hparse, hfor⟩ := line_cases identity realm line
    · rw [survivors_cons_of_none hparse, ih, firstFor?_cons_of_false hfor]
    · rw [survivors_cons_of_isSome hparse (isLineFor_of_ne hkeys hfor),
        firstFor?_cons_of_isLineFor hfor, firstFor?_cons_of_isLineFor hfor]
    · rw [firstFor?_cons_of_false hfor]
      cases hfor' : isLineFor identity' realm' line with
      | true => rw [survivors_cons_of_isLineFor hfor']
      | false =>
        rw [survivors_cons_of_isSome hparse hfor', firstFor?_cons_of_false hfor, ih]

end CredentialStore.Record
