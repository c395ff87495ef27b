import CredentialStore.FileSystem.Calls
import CredentialStore.Store.Rewrite

namespace CredentialStore.Bytes

/-- Octets cut after every line feed. -/
def lines : Bytes → List Bytes
  | [] => []
  | b :: rest =>
    if b = Rewrite.lineFeed then [b] :: lines rest
    else match lines rest with
      | [] => [[b]]
      | line :: others => (b :: line) :: others

/-- Whether there is a last octet and it ends no line. -/
def endsOpen (b : Bytes) : Bool := b.getLast?.any (· ≠ Rewrite.lineFeed)

/-- Octets with their last line ended. -/
def terminated (b : Bytes) : Bytes := if b.endsOpen then b ++ [Rewrite.lineFeed] else b

@[simp] theorem lines_nil : lines [] = [] := rfl

theorem lines_lineFeed_cons (rest : Bytes) :
    lines (Rewrite.lineFeed :: rest) = [Rewrite.lineFeed] :: lines rest := by
  simp [lines]

/-- The lines put together again are the octets. -/
theorem flatten_lines (b : Bytes) : (lines b).flatten = b := by
  induction b with
  | nil => rfl
  | cons b rest ih =>
    by_cases hfeed : b = Rewrite.lineFeed
    · subst hfeed
      rw [lines_lineFeed_cons, List.flatten_cons, ih]
      rfl
    · simp only [lines, if_neg hfeed]
      cases hlines : lines rest with
      | nil =>
        rw [hlines] at ih
        simp [← ih]
      | cons line others =>
        rw [hlines] at ih
        simp [← ih]

theorem ne_nil_of_mem_lines {b line : Bytes} (hline : line ∈ lines b) : line ≠ [] := by
  induction b generalizing line with
  | nil => simp at hline
  | cons b rest ih =>
    by_cases hfeed : b = Rewrite.lineFeed
    · subst hfeed
      rw [lines_lineFeed_cons, List.mem_cons] at hline
      rcases hline with rfl | hrest
      · simp
      · exact ih hrest
    · simp only [lines, if_neg hfeed] at hline
      cases hlines : lines rest with
      | nil => simp_all
      | cons first others =>
        rw [hlines] at hline ih
        rcases List.mem_cons.1 hline with rfl | hrest
        · simp
        · exact ih (List.mem_cons_of_mem first hrest)

/-- The line that is fetched first is the first of the lines, and the others are those of the octets
    after it. -/
theorem lines_eq_firstLine_cons {b : Bytes} (hb : b ≠ []) :
    lines b = FileSystem.firstLine b :: lines (b.drop (FileSystem.firstLine b).length) := by
  induction b with
  | nil => exact absurd rfl hb
  | cons b rest ih =>
    by_cases hfeed : b = Rewrite.lineFeed
    · subst hfeed
      rw [lines_lineFeed_cons]
      rfl
    · have hfirst : FileSystem.firstLine (b :: rest) = b :: FileSystem.firstLine rest := if_neg hfeed
      rw [hfirst]
      simp only [lines, if_neg hfeed, List.length_cons, List.drop_succ_cons]
      by_cases hrest : rest = []
      · subst hrest
        rfl
      · rw [ih hrest]

theorem length_firstLine_le (b : Bytes) : (FileSystem.firstLine b).length ≤ b.length := by
  induction b with
  | nil => simp [FileSystem.firstLine]
  | cons b rest ih =>
    by_cases hfeed : b = 0x0A
    · simp [FileSystem.firstLine, hfeed]
    · simpa [FileSystem.firstLine, hfeed] using ih

theorem firstLine_eq_nil_iff {b : Bytes} : FileSystem.firstLine b = [] ↔ b = [] := by
  cases b with
  | nil => simp [FileSystem.firstLine]
  | cons b rest =>
    by_cases hfeed : b = 0x0A <;> simp [FileSystem.firstLine, hfeed]

@[simp] theorem endsOpen_nil : endsOpen [] = false := rfl

theorem endsOpen_append (a : Bytes) {b : Bytes} (hb : b ≠ []) : (a ++ b).endsOpen = b.endsOpen := by
  cases hlast : b.getLast? with
  | none => exact absurd (List.getLast?_eq_none_iff.1 hlast) hb
  | some last => simp [endsOpen, List.getLast?_append, hlast]

theorem endsOpen_append_lineFeed (a : Bytes) : (a ++ [Rewrite.lineFeed]).endsOpen = false := by
  rw [endsOpen_append a (by simp)]
  rfl

/-- Octets whose last line is ended stay apart from what follows. -/
theorem lines_append {a : Bytes} (ha : a.endsOpen = false) (b : Bytes) :
    lines (a ++ b) = lines a ++ lines b := by
  induction a with
  | nil => rfl
  | cons x rest ih =>
    by_cases hfeed : x = Rewrite.lineFeed
    · subst hfeed
      have hrest : endsOpen rest = false := by
        by_cases hnil : rest = []
        · rw [hnil, endsOpen_nil]
        · rwa [← endsOpen_append [Rewrite.lineFeed] hnil]
      simp only [List.cons_append, lines_lineFeed_cons, ih hrest]
    · have hnil : rest ≠ [] := by
        rintro rfl
        simp [endsOpen, hfeed] at ha
      have hrest : endsOpen rest = false := by rwa [← endsOpen_append [x] hnil]
      have hlines : lines rest ≠ [] := by
        intro hempty
        have hflat := flatten_lines rest
        rw [hempty] at hflat
        exact hnil hflat.symm
      simp only [List.cons_append, lines, if_neg hfeed, ih hrest]
      cases hfirst : lines rest with
      | nil => exact absurd hfirst hlines
      | cons line others => rfl

/-- One line feed at the end makes one line. -/
theorem lines_eq_singleton {b : Bytes} (hfree : Rewrite.lineFeed ∉ b) :
    lines (b ++ [Rewrite.lineFeed]) = [b ++ [Rewrite.lineFeed]] := by
  induction b with
  | nil => rfl
  | cons x rest ih =>
    rw [List.mem_cons, not_or] at hfree
    simp only [List.cons_append, lines, if_neg (Ne.symm hfree.1), ih hfree.2]

theorem endsOpen_terminated (b : Bytes) : b.terminated.endsOpen = false := by
  cases hopen : b.endsOpen with
  | true => simp only [terminated, hopen, if_true, endsOpen_append_lineFeed]
  | false => simp [terminated, hopen]

end CredentialStore.Bytes
