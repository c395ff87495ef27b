import Mathlib.Data.List.Nodup

namespace CredentialStore.Association

variable {α β : Type} [BEq α] [LawfulBEq α] {entries : List (α × β)} {name : α}

theorem lookup_cons_eq_ite [DecidableEq α] (entry : α × β) (rest : List (α × β)) (name : α) :
    (entry :: rest).lookup name = if name = entry.1 then some entry.2 else rest.lookup name := by
  rw [List.lookup_cons]
  by_cases hname : name = entry.1
  · rw [if_pos hname, hname, beq_self_eq_true]
  · rw [if_neg hname, beq_false_of_ne hname]

theorem lookup_eq_none_of_notMem (hnew : name ∉ entries.map Prod.fst) : entries.lookup name = none := by
  refine List.lookup_eq_none_iff.2 fun entry hentry => ?_
  have hne : name ≠ entry.1 := by
    rintro rfl
    exact hnew (List.mem_map_of_mem hentry)
  simpa using hne

theorem eq_of_lookup_eq [DecidableEq α] {others : List (α × β)}
    (hnames : entries.map Prod.fst = others.map Prod.fst) (hdistinct : (entries.map Prod.fst).Nodup)
    (hlookup : ∀ name, entries.lookup name = others.lookup name) : entries = others := by
  induction entries generalizing others with
  | nil => exact (List.map_eq_nil_iff.1 hnames.symm).symm
  | cons entry rest ih =>
    obtain _ | ⟨other, more⟩ := others
    · cases hnames
    obtain ⟨hname, hrest⟩ := List.cons.inj hnames
    obtain ⟨hnew, hdistinct⟩ := List.nodup_cons.1 hdistinct
    have hfirst := hlookup entry.1
    rw [lookup_cons_eq_ite, lookup_cons_eq_ite, if_pos rfl, if_pos hname, Option.some_inj] at hfirst
    have hmore : rest = more := by
      refine ih hrest hdistinct fun name => ?_
      by_cases hfront : name = entry.1
      · have hnew' : entry.1 ∉ more.map Prod.fst := fun hmem => hnew (hrest.symm ▸ hmem)
        rw [hfront, lookup_eq_none_of_notMem hnew, lookup_eq_none_of_notMem hnew']
      · have hbehind := hlookup name
        rwa [lookup_cons_eq_ite, lookup_cons_eq_ite, if_neg hfront, if_neg (hname ▸ hfront)] at hbehind
    rw [hmore, Prod.ext hname hfirst]

theorem lookup_reverse [DecidableEq α] (hdistinct : (entries.map Prod.fst).Nodup) (name : α) :
    entries.reverse.lookup name = entries.lookup name := by
  induction entries with
  | nil => rfl
  | cons entry rest ih =>
    obtain ⟨hnew, hrest⟩ := List.nodup_cons.1 hdistinct
    rw [List.reverse_cons, List.lookup_append, ih hrest, lookup_cons_eq_ite, lookup_cons_eq_ite, List.lookup_nil]
    split
    · rename_i hname
      rw [hname, lookup_eq_none_of_notMem hnew, Option.none_or]
    · exact Option.or_none

end CredentialStore.Association
