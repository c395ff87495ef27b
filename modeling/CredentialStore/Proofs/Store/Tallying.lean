import Mathlib.Data.List.TakeWhile
import CredentialStore.Proofs.Store.Survivors

namespace CredentialStore.Rewrite

variable (r : Rewrite)

/-- The numbers of the lines that are dropped, of lines that are dealt with in order from a number on. -/
def droppedOf (seen : Summary) (number : Nat) : List Bytes → List Nat
  | [] => []
  | line :: rest =>
    match r.fate seen.matched line with
    | .dropped => number :: droppedOf (seen.after .dropped) (number + 1) rest
    | fate => droppedOf (seen.after fate) (number + 1) rest

/-- How many lines a summary counts. -/
def Summary.total (seen : Summary) : Nat :=
  seen.copied + seen.dropped + if seen.matched.isSome then 1 else 0

/-- What a summary says of the lines of a store: where the record that is looked for cuts them, and which
    numbers the lines before it have that are dropped. -/
structure Accounts (lines : List Bytes) (seen : Summary) (front rest : List Bytes) (numbers : List Nat) :
    Prop where
  eq_append : lines = front ++ rest
  not_isLineFor : ∀ line ∈ front, Record.isLineFor r.identity r.realm line = false
  matched : (seen.matched = none ∧ rest = []) ∨ ∃ line back record, rest = line :: back ∧
    Record.parse line = some record ∧ record.isFor r.identity r.realm = true ∧ seen.matched = some record
  copied : seen.copied = (front.filter (fun line => (Record.parse line).isSome) ++ rest.tail).length
  dropped : seen.dropped = numbers.length
  total : seen.total = lines.length
  ascending : numbers.Pairwise (· < ·)
  mem_numbers : ∀ n, n ∈ numbers ↔ ∃ line, 0 < n ∧ front[n - 1]? = some line ∧ Record.parse line = none

theorem droppedOf_cons (seen : Summary) (number : Nat) (line : Bytes) (rest : List Bytes) :
    r.droppedOf seen number (line :: rest) =
      r.droppedOf seen number [line] ++ r.droppedOf (r.seenOf seen [line]) (number + 1) rest := by
  simp only [droppedOf, seenOf]
  cases r.fate seen.matched line <;> rfl

/-- Every line is counted once, since none can be the record after it was found. -/
theorem total_after (seen : Summary) (line : Bytes) :
    (seen.after (r.fate seen.matched line)).total = seen.total + 1 := by
  cases hfound : seen.matched with
  | some record =>
    rw [fate_of_isSome r rfl]
    simp [Summary.after, Summary.total, hfound]
    omega
  | none =>
    cases r.fate none line <;> simp [Summary.after, Summary.total, hfound] <;> omega

theorem total_seenOf (seen : Summary) (lines : List Bytes) :
    (r.seenOf seen lines).total = seen.total + lines.length := by
  induction lines generalizing seen with
  | nil => rfl
  | cons line rest ih =>
    rw [seenOf, ih, total_after, List.length_cons]
    omega

theorem storeExists_seenOf (seen : Summary) (lines : List Bytes) :
    (r.seenOf seen lines).storeExists = seen.storeExists := by
  induction lines generalizing seen with
  | nil => rfl
  | cons line rest ih =>
    rw [seenOf, ih]
    cases r.fate seen.matched line <;> rfl

theorem copied_seenOf (seen : Summary) (lines : List Bytes) :
    (r.seenOf seen lines).copied = seen.copied + (r.copiedOf seen lines).length := by
  induction lines generalizing seen with
  | nil => rfl
  | cons line rest ih =>
    rw [seenOf, copiedOf, ih]
    cases r.fate seen.matched line with
    | copied =>
      simp only [Summary.after, List.length_cons]
      omega
    | dropped => rfl
    | matched record => rfl

theorem dropped_seenOf (seen : Summary) (number : Nat) (lines : List Bytes) :
    (r.seenOf seen lines).dropped = seen.dropped + (r.droppedOf seen number lines).length := by
  induction lines generalizing seen number with
  | nil => rfl
  | cons line rest ih =>
    rw [seenOf, droppedOf, ih _ (number + 1)]
    cases r.fate seen.matched line with
    | copied => rfl
    | dropped =>
      simp only [Summary.after, List.length_cons]
      omega
    | matched record => rfl

theorem droppedOf_of_isSome {seen : Summary} (hfound : seen.matched.isSome) (number : Nat)
    (lines : List Bytes) : r.droppedOf seen number lines = [] := by
  induction lines generalizing seen number with
  | nil => rfl
  | cons line rest ih =>
    rw [droppedOf, fate_of_isSome r hfound]
    have hafter : (seen.after .copied).matched.isSome := hfound
    exact ih hafter (number + 1)

/-- The dropped lines are those before the record that is looked for that are none. -/
theorem droppedOf_eq {seen : Summary} (hnone : seen.matched = none) (number : Nat) (lines : List Bytes) :
    r.droppedOf seen number lines =
      (((lines.takeWhile (!Record.isLineFor r.identity r.realm ·)).zipIdx number).filter
        fun numbered => (Record.parse numbered.1).isNone).map Prod.snd := by
  induction lines generalizing seen number with
  | nil => rfl
  | cons line rest ih =>
    rw [droppedOf, hnone]
    cases hparse : Record.parse line with
    | none =>
      have hafter : (seen.after .dropped).matched = none := hnone
      rw [fate_of_parse_eq_none r hparse]
      simp [ih hafter, Record.isLineFor, hparse]
    | some record =>
      cases hfor : record.isFor r.identity r.realm with
      | false =>
        have hafter : (seen.after .copied).matched = none := hnone
        rw [fate_of_not_isFor r hparse hfor]
        simp [ih hafter, Record.isLineFor, hparse, hfor]
      | true =>
        have hafter : (seen.after (.matched record)).matched.isSome := rfl
        rw [fate_of_isFor r hparse hfor]
        simp [droppedOf_of_isSome r hafter, Record.isLineFor, hparse, hfor]

theorem pairwise_droppedOf {seen : Summary} (hnone : seen.matched = none) (number : Nat)
    (lines : List Bytes) : (r.droppedOf seen number lines).Pairwise (· < ·) := by
  rw [droppedOf_eq r hnone]
  refine List.Pairwise.sublist (List.Sublist.map _ List.filter_sublist) ?_
  rw [List.zipIdx_map_snd]
  exact List.pairwise_lt_range'

theorem mem_droppedOf {seen : Summary} (hnone : seen.matched = none) (lines : List Bytes) (n : Nat) :
    n ∈ r.droppedOf seen 1 lines ↔ ∃ line, 0 < n ∧
      (lines.takeWhile (!Record.isLineFor r.identity r.realm ·))[n - 1]? = some line ∧
      Record.parse line = none := by
  rw [droppedOf_eq r hnone]
  simp only [List.mem_map, List.mem_filter, Option.isNone_iff_eq_none, Prod.exists, exists_eq_right,
    List.mk_mem_zipIdx_iff_le_and_getElem?_sub]
  exact exists_congr fun line => and_assoc

theorem matched_seenOf (storeExists : Bool) (lines : List Bytes) :
    ((r.seenOf { storeExists } lines).matched = none ∧
        lines.dropWhile (!Record.isLineFor r.identity r.realm ·) = []) ∨
      ∃ line back record, lines.dropWhile (!Record.isLineFor r.identity r.realm ·) = line :: back ∧
        Record.parse line = some record ∧ record.isFor r.identity r.realm = true ∧
        (r.seenOf { storeExists } lines).matched = some record := by
  rw [seenOf_matched r rfl, Record.firstFor?, lines.find?_eq_head?_dropWhile_not]
  cases hrest : lines.dropWhile (!Record.isLineFor r.identity r.realm ·) with
  | nil => exact .inl ⟨rfl, rfl⟩
  | cons line back =>
    have hfor : Record.isLineFor r.identity r.realm line = true := by
      have hfirst := List.head?_dropWhile_not (!Record.isLineFor r.identity r.realm ·) lines
      rw [hrest] at hfirst
      simpa using hfirst
    obtain ⟨record, hparse, hrecord⟩ := (Option.any_eq_true _ _).1 hfor
    exact .inr ⟨line, back, record, rfl, hparse, hrecord, hparse⟩

/-- What is seen of the lines of a store accounts for all of them. -/
theorem accounts_seenOf (storeExists : Bool) (lines : List Bytes) :
    r.Accounts lines (r.seenOf { storeExists } lines)
      (lines.takeWhile (!Record.isLineFor r.identity r.realm ·))
      (lines.dropWhile (!Record.isLineFor r.identity r.realm ·))
      (r.droppedOf { storeExists } 1 lines) where
  eq_append := List.takeWhile_append_dropWhile.symm
  not_isLineFor line hline := by simpa using List.mem_takeWhile_imp hline
  matched := matched_seenOf r storeExists lines
  copied := by
    rw [copied_seenOf, copiedOf_eq_survivors r rfl, Record.survivors]
    exact Nat.zero_add _
  dropped := (dropped_seenOf r { storeExists } 1 lines).trans (Nat.zero_add _)
  total := (total_seenOf r { storeExists } lines).trans (Nat.zero_add _)
  ascending := pairwise_droppedOf r rfl 1 lines
  mem_numbers := mem_droppedOf r rfl lines

end CredentialStore.Rewrite
