import CredentialStore.Proofs.Record.Line

namespace CredentialStore

namespace Bytes

/-- Lines that stay apart when they are put together: each of them is one line, and only the last can
    lack its line feed. -/
structure Apart (lines : List Bytes) : Prop where
  single : ∀ line ∈ lines, Bytes.lines line = [line]
  ended : lines.Pairwise fun line _ => line.endsOpen = false

theorem ne_nil_of_lines_eq_singleton {line : Bytes} (hsingle : lines line = [line]) : line ≠ [] := by
  rintro rfl
  cases hsingle

theorem eq_nil_of_lines_eq_nil {b : Bytes} (hnil : lines b = []) : b = [] := by
  have hflat := flatten_lines b
  rw [hnil] at hflat
  exact hflat.symm

theorem endsOpen_cons (x : UInt8) {b : Bytes} (hb : b ≠ []) : endsOpen (x :: b) = b.endsOpen :=
  endsOpen_append [x] hb

theorem lines_cons_of_singleton {x : UInt8} {line : Bytes} (hx : x ≠ Rewrite.lineFeed)
    (hsingle : lines line = [line]) : lines (x :: line) = [x :: line] := by
  simp only [lines, if_neg hx, hsingle]

/-- The lines of octets stay apart. -/
theorem apart_lines (b : Bytes) : Apart (lines b) := by
  induction b with
  | nil => exact ⟨by simp, List.Pairwise.nil⟩
  | cons x rest ih =>
    by_cases hfeed : x = Rewrite.lineFeed
    · subst hfeed
      rw [lines_lineFeed_cons]
      refine ⟨fun line hline => ?_, ih.ended.cons fun _ _ => rfl⟩
      rcases List.mem_cons.1 hline with rfl | hrest
      · rfl
      · exact ih.single line hrest
    · cases hlines : lines rest with
      | nil =>
        rw [eq_nil_of_lines_eq_nil hlines]
        simp only [lines, if_neg hfeed]
        refine ⟨fun line hline => ?_, List.pairwise_singleton _ _⟩
        rw [List.mem_singleton.1 hline]
        simp only [lines, if_neg hfeed]
      | cons first others =>
        rw [hlines] at ih
        have hfirst := ih.single first List.mem_cons_self
        have hends := endsOpen_cons x (ne_nil_of_lines_eq_singleton hfirst)
        simp only [lines, if_neg hfeed, hlines]
        obtain ⟨hended, hothers⟩ := List.pairwise_cons.1 ih.ended
        refine ⟨fun line hline => ?_, hothers.cons fun line hline => hends.trans (hended line hline)⟩
        rcases List.mem_cons.1 hline with rfl | hrest
        · exact lines_cons_of_singleton hfeed hfirst
        · exact ih.single line (List.mem_cons_of_mem first hrest)

/-- Ending a line leaves it one line. -/
theorem lines_terminated_of_singleton {line : Bytes} (hsingle : lines line = [line]) :
    lines line.terminated = [line.terminated] := by
  induction line with
  | nil => cases hsingle
  | cons x rest ih =>
    by_cases hrest : rest = []
    · subst hrest
      by_cases hfeed : x = Rewrite.lineFeed
      · subst hfeed
        rfl
      · have hopen : endsOpen [x] = true := by simp [endsOpen, hfeed]
        rw [terminated, if_pos hopen]
        simp [lines, hfeed]
    · have hterminated : terminated (x :: rest) = x :: terminated rest := by
        rw [terminated, terminated, endsOpen_cons x hrest]
        split <;> rfl
      by_cases hfeed : x = Rewrite.lineFeed
      · subst hfeed
        rw [lines_lineFeed_cons, List.cons.injEq] at hsingle
        exact absurd (eq_nil_of_lines_eq_nil hsingle.2) hrest
      · have hlines : lines rest = [rest] := by
          cases hlines : lines rest with
          | nil => exact absurd (eq_nil_of_lines_eq_nil hlines) hrest
          | cons first others =>
            simp only [lines, if_neg hfeed, hlines, List.cons.injEq, true_and] at hsingle
            rw [hsingle.1, hsingle.2]
        rw [hterminated]
        exact lines_cons_of_singleton hfeed (ih hlines)

theorem terminated_append (a : Bytes) {b : Bytes} (hb : b ≠ []) :
    (a ++ b).terminated = a ++ b.terminated := by
  rw [terminated, terminated, endsOpen_append a hb]
  split
  · rw [List.append_assoc]
  · rfl

theorem terminated_of_ended {b : Bytes} (hended : b.endsOpen = false) : b.terminated = b := by
  rw [terminated, hended, if_neg Bool.false_ne_true]

namespace Apart

variable {ls : List Bytes}

theorem sublist {some : List Bytes} (hapart : Apart ls) (hsome : some.Sublist ls) : Apart some :=
  ⟨fun line hline => hapart.single line (hsome.subset hline), hapart.ended.sublist hsome⟩

theorem flatten_ne_nil (hapart : Apart ls) (hls : ls ≠ []) : ls.flatten ≠ [] := by
  obtain ⟨first, rest, rfl⟩ := List.exists_cons_of_ne_nil hls
  have hfirst := ne_nil_of_lines_eq_singleton (hapart.single first List.mem_cons_self)
  simp [hfirst]

theorem of_cons {first : Bytes} (hapart : Apart (first :: ls)) :
    lines first = [first] ∧ Apart ls ∧ (ls ≠ [] → first.endsOpen = false) := by
  obtain ⟨hended, hrest⟩ := List.pairwise_cons.1 hapart.ended
  refine ⟨hapart.single first List.mem_cons_self, ⟨fun line hline => ?_, hrest⟩, fun hls => ?_⟩
  · exact hapart.single line (List.mem_cons_of_mem first hline)
  · obtain ⟨second, others, rfl⟩ := List.exists_cons_of_ne_nil hls
    exact hended second List.mem_cons_self

/-- Lines that stay apart are the lines of what they are together. -/
theorem lines_flatten (hapart : Apart ls) : lines ls.flatten = ls := by
  induction ls with
  | nil => rfl
  | cons first rest ih =>
    obtain ⟨hfirst, hrest, hended⟩ := hapart.of_cons
    rw [List.flatten_cons]
    by_cases hnil : rest = []
    · rw [hnil, List.flatten_nil, List.append_nil, hfirst]
    · rw [lines_append (hended hnil), hfirst, ih hrest]
      rfl

/-- Ending each line ends what they are together. -/
theorem flatten_map_terminated (hapart : Apart ls) :
    (ls.map terminated).flatten = terminated ls.flatten := by
  induction ls with
  | nil => rfl
  | cons first rest ih =>
    obtain ⟨-, hrest, hended⟩ := hapart.of_cons
    rw [List.map_cons, List.flatten_cons, List.flatten_cons]
    by_cases hnil : rest = []
    · subst hnil
      simp
    · rw [ih hrest, terminated_append first (hrest.flatten_ne_nil hnil), terminated_of_ended (hended hnil)]

theorem map_terminated (hapart : Apart ls) : Apart (ls.map terminated) where
  single line hline := by
    obtain ⟨before, hbefore, rfl⟩ := List.mem_map.1 hline
    exact lines_terminated_of_singleton (hapart.single before hbefore)
  ended := by
    refine List.pairwise_map.2 (hapart.ended.imp fun _ => ?_)
    exact endsOpen_terminated _

/-- What is added after the end of the last line stands on its own line. -/
theorem lines_terminated_append (hapart : Apart ls) {line : Bytes} (hsingle : lines line = [line]) :
    lines (terminated ls.flatten ++ line) = ls.map terminated ++ [line] := by
  rw [lines_append (endsOpen_terminated _), hsingle, ← hapart.flatten_map_terminated,
    hapart.map_terminated.lines_flatten]

end Apart

/-- Ending the last line of octets ends each of their lines. -/
theorem lines_terminated (b : Bytes) : lines b.terminated = (lines b).map terminated := by
  have hapart := apart_lines b
  rw [← hapart.map_terminated.lines_flatten, hapart.flatten_map_terminated, flatten_lines]

end Bytes

namespace Record

/-- A line is the same record whether or not it is ended. -/
@[simp] theorem parse_terminated (line : Bytes) : parse line.terminated = parse line := by
  rw [Bytes.terminated]
  split
  · rw [parse, parse, dropEnd_append_of_pos (by decide)]
  · rfl

end Record

end CredentialStore
