import CredentialStore.Proofs.Store.Lines

namespace CredentialStore

namespace Record

/-- Whether a line is a record for an identity and a realm. -/
def isLineFor (identity realm : Text) (line : Bytes) : Bool :=
  (parse line).any (·.isFor identity realm)

/-- The record of the first line that is one for an identity and a realm. -/
def firstFor? (identity realm : Text) (lines : List Bytes) : Option Record :=
  (lines.find? (isLineFor identity realm)).bind parse

/-- The lines that are left of a store without its first record for an identity and a realm: before it
    those that are records, after it all of them. -/
def survivors (identity realm : Text) (lines : List Bytes) : List Bytes :=
  (lines.takeWhile (!isLineFor identity realm ·)).filter (fun line => (parse line).isSome) ++
    (lines.dropWhile (!isLineFor identity realm ·)).tail

theorem isFor_iff {r : Record} {identity realm : Text} :
    r.isFor identity realm = true ↔ r.identity = identity ∧ r.realm = realm := by
  simp [isFor]

theorem isFor_of_firstFor? {identity realm : Text} {lines : List Bytes} {r : Record}
    (hfound : firstFor? identity realm lines = some r) : r.isFor identity realm = true := by
  obtain ⟨line, hline, hparse⟩ := Option.bind_eq_some_iff.1 hfound
  have hfor := List.find?_some hline
  simpa [isLineFor, hparse] using hfor

theorem isSome_parse_of_isLineFor {identity realm : Text} {line : Bytes}
    (hfor : isLineFor identity realm line = true) : (parse line).isSome := by
  cases hparse : parse line with
  | none => simp [isLineFor, hparse] at hfor
  | some r => rfl

end Record

namespace Rewrite

variable (r : Rewrite)

def Summary.after (seen : Summary) : Fate → Summary
  | .copied => { seen with copied := seen.copied + 1 }
  | .dropped => { seen with dropped := seen.dropped + 1 }
  | .matched record => { seen with matched := some record }

/-- What is seen of lines that are dealt with in order. -/
def seenOf (seen : Summary) : List Bytes → Summary
  | [] => seen
  | line :: rest => seenOf (seen.after (r.fate seen.matched line)) rest

/-- The lines that are copied of lines that are dealt with in order. -/
def copiedOf (seen : Summary) : List Bytes → List Bytes
  | [] => []
  | line :: rest =>
    match r.fate seen.matched line with
    | .copied => line :: copiedOf (seen.after .copied) rest
    | fate => copiedOf (seen.after fate) rest

theorem seenOf_cons (seen : Summary) (line : Bytes) (rest : List Bytes) :
    r.seenOf seen (line :: rest) = r.seenOf (r.seenOf seen [line]) rest := rfl

theorem copiedOf_cons (seen : Summary) (line : Bytes) (rest : List Bytes) :
    r.copiedOf seen (line :: rest) = r.copiedOf seen [line] ++ r.copiedOf (r.seenOf seen [line]) rest := by
  simp only [copiedOf, seenOf]
  cases r.fate seen.matched line <;> rfl

theorem fate_of_isSome {found : Option Record} (hfound : found.isSome) (line : Bytes) :
    r.fate found line = .copied := by
  obtain ⟨record, rfl⟩ := Option.isSome_iff_exists.1 hfound
  rfl

theorem fate_of_parse_eq_none {line : Bytes} (hparse : Record.parse line = none) :
    r.fate none line = .dropped := by
  simp [fate, hparse]

theorem fate_of_not_isFor {line : Bytes} {record : Record} (hparse : Record.parse line = some record)
    (hfor : record.isFor r.identity r.realm = false) : r.fate none line = .copied := by
  simp [fate, hparse, hfor]

theorem fate_of_isFor {line : Bytes} {record : Record} (hparse : Record.parse line = some record)
    (hfor : record.isFor r.identity r.realm = true) : r.fate none line = .matched record := by
  simp [fate, hparse, hfor]

theorem seenOf_matched_of_isSome {seen : Summary} (hfound : seen.matched.isSome) (lines : List Bytes) :
    (r.seenOf seen lines).matched = seen.matched := by
  induction lines generalizing seen with
  | nil => rfl
  | cons line rest ih =>
    rw [seenOf, fate_of_isSome r hfound]
    have hafter : (seen.after .copied).matched.isSome := hfound
    exact ih hafter

theorem copiedOf_of_isSome {seen : Summary} (hfound : seen.matched.isSome) (lines : List Bytes) :
    r.copiedOf seen lines = lines := by
  induction lines generalizing seen with
  | nil => rfl
  | cons line rest ih =>
    rw [copiedOf, fate_of_isSome r hfound]
    have hafter : (seen.after .copied).matched.isSome := hfound
    exact congrArg (line :: ·) (ih hafter)

/-- The record that the rewrite finds is the first one that it looks for. -/
theorem seenOf_matched {seen : Summary} (hnone : seen.matched = none) (lines : List Bytes) :
    (r.seenOf seen lines).matched = Record.firstFor? r.identity r.realm lines := by
  induction lines generalizing seen with
  | nil => exact hnone
  | cons line rest ih =>
    rw [seenOf, hnone]
    cases hparse : Record.parse line with
    | none =>
      have hafter : (seen.after .dropped).matched = none := hnone
      rw [fate_of_parse_eq_none r hparse, ih hafter]
      simp [Record.firstFor?, Record.isLineFor, hparse]
    | some record =>
      cases hfor : record.isFor r.identity r.realm with
      | false =>
        have hafter : (seen.after .copied).matched = none := hnone
        rw [fate_of_not_isFor r hparse hfor, ih hafter]
        simp [Record.firstFor?, Record.isLineFor, hparse, hfor]
      | true =>
        have hafter : (seen.after (.matched record)).matched.isSome := rfl
        rw [fate_of_isFor r hparse hfor, seenOf_matched_of_isSome r hafter]
        simp [Record.firstFor?, Record.isLineFor, hparse, hfor, Summary.after]

/-- The lines that the rewrite copies are the survivors. -/
theorem copiedOf_eq_survivors {seen : Summary} (hnone : seen.matched = none) (lines : List Bytes) :
    r.copiedOf seen lines = Record.survivors r.identity r.realm lines := by
  induction lines generalizing seen with
  | nil => rfl
  | cons line rest ih =>
    rw [copiedOf, hnone]
    cases hparse : Record.parse line with
    | none =>
      have hafter : (seen.after .dropped).matched = none := hnone
      rw [fate_of_parse_eq_none r hparse]
      simp [ih hafter, Record.survivors, Record.isLineFor, hparse]
    | some record =>
      cases hfor : record.isFor r.identity r.realm with
      | false =>
        have hafter : (seen.after .copied).matched = none := hnone
        rw [fate_of_not_isFor r hparse hfor]
        simp [ih hafter, Record.survivors, Record.isLineFor, hparse, hfor]
      | true =>
        have hafter : (seen.after (.matched record)).matched.isSome := rfl
        rw [fate_of_isFor r hparse hfor]
        simp [copiedOf_of_isSome r hafter, Record.survivors,
          Record.isLineFor, hparse, hfor]

end Rewrite

end CredentialStore
