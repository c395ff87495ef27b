import CredentialStore.Log.Value
import CredentialStore.Proofs.Association
import Mathlib.Data.List.Induction

namespace CredentialStore.Log.Fields

open Association

def names (fields : Fields) : List Text := fields.map Prod.fst

variable {fields own changes result : Fields} {name : Text} {v : Value}

theorem names_set_of_mem (hmem : name ∈ names fields) : names (set name v fields) = names fields := by
  induction fields with
  | nil => cases hmem
  | cons f rest ih =>
    rw [set]
    split
    · rename_i hname
      rw [names, names, List.map_cons, List.map_cons, hname]
    · rename_i hname
      have hrest : name ∈ names rest := (List.mem_cons.1 hmem).resolve_left (Ne.symm hname)
      exact congrArg (f.1 :: ·) (ih hrest)

theorem names_set_of_notMem (hnew : name ∉ names fields) :
    names (set name v fields) = names fields ++ [name] := by
  induction fields with
  | nil => rfl
  | cons f rest ih =>
    obtain ⟨hname, hrest⟩ := not_or.1 (mt List.mem_cons.2 hnew)
    rw [set, if_neg (Ne.symm hname)]
    exact congrArg (f.1 :: ·) (ih hrest)

theorem lookup_set (name other : Text) (v : Value) (fields : Fields) :
    (set name v fields).lookup other = if other = name then some v else fields.lookup other := by
  induction fields with
  | nil => exact lookup_cons_eq_ite (name, v) [] other
  | cons f rest ih =>
    rw [set]
    split
    · rename_i hname
      rw [lookup_cons_eq_ite, lookup_cons_eq_ite, ← hname]
      split <;> rfl
    · rename_i hname
      rw [lookup_cons_eq_ite, lookup_cons_eq_ite, ih]
      by_cases hother : other = f.1
      · rw [if_pos hother, if_pos hother, if_neg (by rw [hother]; exact hname)]
      · rw [if_neg hother, if_neg hother]

theorem mem_set {f : Text × Value} (hmem : f ∈ set name v fields) : f = (name, v) ∨ f ∈ fields := by
  induction fields with
  | nil => exact .inl (List.mem_singleton.1 hmem)
  | cons g rest ih =>
    rw [set] at hmem
    split at hmem
    · exact (List.mem_cons.1 hmem).imp_right (List.mem_cons_of_mem g)
    · obtain rfl | hrest := List.mem_cons.1 hmem
      · exact .inr List.mem_cons_self
      · exact (ih hrest).imp_right (List.mem_cons_of_mem g)

theorem update_append_singleton (fields changes : Fields) (change : Text × Value) :
    update fields (changes ++ [change]) = set change.1 change.2 (update fields changes) := by
  rw [update, List.foldl_append]
  rfl

/-- No field comes from elsewhere. -/
theorem mem_update {f : Text × Value} (hmem : f ∈ update fields changes) : f ∈ fields ∨ f ∈ changes := by
  induction changes using List.reverseRecOn with
  | nil => exact .inl hmem
  | append_singleton changes change ih =>
    rw [update_append_singleton] at hmem
    obtain rfl | hrest := mem_set hmem
    · exact .inr (List.mem_append_right changes List.mem_cons_self)
    · exact (ih hrest).imp_right (List.mem_append_left _)

/-- What fields become when others are set in order. -/
structure Updated (own changes result : Fields) : Prop where
  /-- The names keep their places, and those that are new come once each. -/
  names_eq : names result = names own ++ ((names changes).filter (· ∉ names own)).eraseDups
  distinct : (names result).Nodup
  /-- The last value that was given for a name. -/
  lookup_eq : ∀ name, result.lookup name = (own ++ changes).reverse.lookup name

namespace Updated

theorem mem_names (hupdated : Updated own changes result) :
    name ∈ names result ↔ name ∈ names own ∨ name ∈ names changes := by
  rw [hupdated.names_eq, List.mem_append, List.mem_eraseDups, List.mem_filter, decide_eq_true_iff]
  tauto

/-- There is only one way to update. -/
theorem unique {result' : Fields} (hupdated : Updated own changes result)
    (hupdated' : Updated own changes result') : result = result' := by
  refine eq_of_lookup_eq (hupdated.names_eq.trans hupdated'.names_eq.symm) hupdated.distinct fun name => ?_
  rw [hupdated.lookup_eq, hupdated'.lookup_eq]

/-- Setting one field more is one change more. -/
theorem set (hupdated : Updated own changes result) (name : Text) (v : Value) :
    Updated own (changes ++ [(name, v)]) (Fields.set name v result) where
  names_eq := by
    have hnames : names (changes ++ [(name, v)]) = names changes ++ [name] := List.map_append
    rw [hnames, List.filter_append, List.eraseDups_append, ← List.append_assoc, ← hupdated.names_eq]
    by_cases hmem : name ∈ names result
    · have hnone : ([name].filter (· ∉ names own)).removeAll ((names changes).filter (· ∉ names own)) =
          [] := by
        by_cases hown : name ∈ names own
        · simp [hown]
        · have hchanged := (hupdated.mem_names.1 hmem).resolve_left hown
          simp [hown, List.removeAll, hchanged]
      rw [names_set_of_mem hmem, hnone, List.eraseDups_nil, List.append_nil]
    · obtain ⟨hown, hchanged⟩ := not_or.1 (mt hupdated.mem_names.2 hmem)
      have hone : ([name].filter (· ∉ names own)).removeAll ((names changes).filter (· ∉ names own)) =
          [name] := by
        simp [hown, List.removeAll, hchanged]
      rw [names_set_of_notMem hmem, hone]
      rfl
  distinct := by
    by_cases hmem : name ∈ names result
    · rw [names_set_of_mem hmem]
      exact hupdated.distinct
    · rw [names_set_of_notMem hmem]
      exact List.concat_eq_append ▸ hupdated.distinct.concat hmem
  lookup_eq other := by
    rw [lookup_set, ← List.append_assoc, List.reverse_append, hupdated.lookup_eq]
    exact (lookup_cons_eq_ite (name, v) _ other).symm

end Updated

theorem updated_update (hdistinct : (names own).Nodup) (changes : Fields) :
    Updated own changes (update own changes) := by
  induction changes using List.reverseRecOn with
  | nil =>
    refine ⟨(List.append_nil _).symm, hdistinct, fun name => ?_⟩
    rw [List.append_nil, lookup_reverse hdistinct]
    rfl
  | append_singleton changes change ih =>
    rw [update_append_singleton]
    exact ih.set change.1 change.2

end CredentialStore.Log.Fields
