import CredentialStore.Proofs.Record.Line
import CredentialStore.Proofs.Store.Survivors

namespace CredentialStore

namespace Record

/-- What a record is looked for by. -/
def key (r : Record) : Text × Text := (r.identity, r.realm)

theorem isFor_iff_key {r : Record} {identity realm : Text} :
    r.isFor identity realm = true ↔ r.key = (identity, realm) := by
  rw [isFor_iff, key, Prod.mk.injEq]

variable {records : List Record} {r : Record} {identity realm : Text}

theorem IsWritten.toLine?_eq_octets (hwritten : r.IsWritten) : r.toLine? = some r.octets := by
  obtain ⟨line, hline, -⟩ := hwritten.exists_toLine?
  rw [octets, hline, Option.getD_some]

theorem IsWritten.octets_spec (hwritten : r.IsWritten) :
    Bytes.lines r.octets = [r.octets] ∧ r.octets.endsOpen = false ∧ parse r.octets = some r := by
  obtain ⟨line, hline, hspec⟩ := hwritten.exists_toLine?
  have hoctets : r.octets = line := by rw [octets, hline, Option.getD_some]
  rwa [hoctets]

theorem endsOpen_flatMap_octets (hwritten : ∀ r ∈ records, r.IsWritten) :
    Bytes.endsOpen (records.flatMap octets) = false := by
  induction records with
  | nil => rfl
  | cons r rest ih =>
    have hrest : Bytes.endsOpen (rest.flatMap octets) = false :=
      ih fun x hx => hwritten x (List.mem_cons_of_mem r hx)
    obtain ⟨-, hfirst, -⟩ := (hwritten r List.mem_cons_self).octets_spec
    rw [List.flatMap_cons]
    by_cases hnil : rest.flatMap octets = []
    · rw [hnil, List.append_nil]
      exact hfirst
    · rw [Bytes.endsOpen_append _ hnil]
      exact hrest

/-- The lines of written records that stand one after the other are these records. -/
theorem lines_flatMap_octets (hwritten : ∀ r ∈ records, r.IsWritten) :
    Bytes.lines (records.flatMap octets) = records.map octets := by
  induction records with
  | nil => rfl
  | cons r rest ih =>
    have hrest := ih fun x hx => hwritten x (List.mem_cons_of_mem r hx)
    obtain ⟨hline, hfirst, -⟩ := (hwritten r List.mem_cons_self).octets_spec
    rw [List.flatMap_cons, Bytes.lines_append hfirst, hline, hrest]
    rfl

theorem filterMap_parse_octets (hwritten : ∀ r ∈ records, r.IsWritten) :
    (records.map octets).filterMap parse = records := by
  induction records with
  | nil => rfl
  | cons r rest ih =>
    have hrest := ih fun x hx => hwritten x (List.mem_cons_of_mem r hx)
    obtain ⟨-, -, hparse⟩ := (hwritten r List.mem_cons_self).octets_spec
    rw [List.map_cons, List.filterMap_cons_some hparse, hrest]

/-- Of written records, those survive that are left after the first of the key is erased. -/
theorem survivors_map_octets (hwritten : ∀ r ∈ records, r.IsWritten) :
    survivors identity realm (records.map octets) =
      (records.eraseP (·.isFor identity realm)).map octets := by
  induction records with
  | nil => rfl
  | cons r rest ih =>
    have hrest := ih fun x hx => hwritten x (List.mem_cons_of_mem r hx)
    obtain ⟨-, -, hparse⟩ := (hwritten r List.mem_cons_self).octets_spec
    rw [survivors] at hrest
    cases hfor : r.isFor identity realm with
    | true =>
      have hline : isLineFor identity realm r.octets = true := by simp [isLineFor, hparse, hfor]
      have herase : (r :: rest).eraseP (·.isFor identity realm) = rest := List.eraseP_cons_of_pos hfor
      rw [herase]
      simp [survivors, hline]
    | false =>
      have hline : isLineFor identity realm r.octets = false := by simp [isLineFor, hparse, hfor]
      have herase : (r :: rest).eraseP (·.isFor identity realm) =
          r :: rest.eraseP (·.isFor identity realm) := List.eraseP_cons_of_neg (by simp [hfor])
      rw [herase, List.map_cons, List.map_cons, ← hrest]
      simp [survivors, hline, hparse]

theorem notMem_keys_eraseP (hdistinct : (records.map key).Nodup) :
    (identity, realm) ∉ (records.eraseP (·.isFor identity realm)).map key := by
  induction records with
  | nil => simp
  | cons r rest ih =>
    rw [List.map_cons, List.nodup_cons] at hdistinct
    cases hfor : r.isFor identity realm with
    | true =>
      have herase : (r :: rest).eraseP (·.isFor identity realm) = rest := List.eraseP_cons_of_pos hfor
      rw [herase, ← isFor_iff_key.1 hfor]
      exact hdistinct.1
    | false =>
      have herase : (r :: rest).eraseP (·.isFor identity realm) =
          r :: rest.eraseP (·.isFor identity realm) := List.eraseP_cons_of_neg (by simp [hfor])
      rw [herase, List.map_cons, List.mem_cons, not_or]
      refine ⟨fun heq => ?_, ih hdistinct.2⟩
      rw [isFor_iff_key.2 heq.symm] at hfor
      cases hfor

end Record

/-- A store that lists records: it is their lines, and no two of them have one key. -/
structure Bytes.Lists (octets : Bytes) (records : List Record) : Prop where
  written : ∀ r ∈ records, r.IsWritten
  distinct : (records.map Record.key).Nodup
  octets_eq : octets = records.flatMap Record.octets

namespace Bytes.Lists

variable {octets : Bytes} {records : List Record}

theorem nil : Lists [] [] := ⟨by simp, List.nodup_nil, rfl⟩

theorem lines_eq (hlists : Lists octets records) : lines octets = records.map Record.octets := by
  rw [hlists.octets_eq]
  exact Record.lines_flatMap_octets hlists.written

theorem filterMap_parse (hlists : Lists octets records) :
    (lines octets).filterMap Record.parse = records := by
  rw [hlists.lines_eq]
  exact Record.filterMap_parse_octets hlists.written

theorem of_mem_lines (hlists : Lists octets records) {line : Bytes} (hline : line ∈ lines octets) :
    line.getLast? = some Rewrite.lineFeed ∧ (Record.parse line).isSome := by
  have hnonempty := ne_nil_of_mem_lines hline
  rw [hlists.lines_eq] at hline
  obtain ⟨r, hr, rfl⟩ := List.mem_map.1 hline
  obtain ⟨-, hend, hparse⟩ := (hlists.written r hr).octets_spec
  refine ⟨?_, by rw [hparse]; rfl⟩
  cases hlast : r.octets.getLast? with
  | none => exact absurd (List.getLast?_eq_none_iff.1 hlast) hnonempty
  | some last =>
    rw [endsOpen, hlast] at hend
    have hfeed : last = Rewrite.lineFeed := by simpa using hend
    rw [hfeed]

/-- A store without the first record of a key lists the other records. -/
theorem erase (hlists : Lists octets records) (identity realm : Text) :
    Lists (Record.survivors identity realm (lines octets)).flatten
      (records.eraseP (·.isFor identity realm)) where
  written r hr := hlists.written r (List.mem_of_mem_eraseP hr)
  distinct := hlists.distinct.sublist (List.eraseP_sublist.map Record.key)
  octets_eq := by
    rw [hlists.lines_eq, Record.survivors_map_octets hlists.written, List.flatMap_def]

theorem terminated_eq (hlists : Lists octets records) : octets.terminated = octets := by
  have hend : octets.endsOpen = false := by
    rw [hlists.octets_eq]
    exact Record.endsOpen_flatMap_octets hlists.written
  simp [terminated, hend]

theorem append (hlists : Lists octets records) {r : Record} (hwritten : r.IsWritten)
    (hnew : r.key ∉ records.map Record.key) : Lists (octets ++ r.octets) (records ++ [r]) where
  written x hx := by
    rcases List.mem_append.1 hx with hx | hx
    · exact hlists.written x hx
    · rw [List.mem_singleton.1 hx]
      exact hwritten
  distinct := by
    rw [List.map_append, List.nodup_append]
    refine ⟨hlists.distinct, by simp, fun x hx y hy => ?_⟩
    rintro rfl
    simp only [List.map_cons, List.map_nil, List.mem_singleton] at hy
    exact hnew (hy ▸ hx)
  octets_eq := by
    rw [hlists.octets_eq, List.flatMap_append, List.flatMap_singleton]

end Bytes.Lists

end CredentialStore
