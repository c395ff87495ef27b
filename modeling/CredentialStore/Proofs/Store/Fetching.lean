import CredentialStore.Proofs.Store.Copying
import CredentialStore.Proofs.Store.Using

namespace CredentialStore

open FileSystem StorePaths

/-- Whether a call fetches a line of the primary file. -/
def Call.Fetches : Call → Prop
  | fetchLine _ _ _ => True
  | _ => False

/-- Whether a call reads from the primary file or writes to the staging file. -/
def Call.Copies : Call → Prop
  | openPrimary _ | fetchLine _ _ _ | closePrimary _ | write _ _ => True
  | _ => False

theorem Call.Copies.of_fetches {c : Call} (hfetches : c.Fetches) : c.Copies := by
  cases c <;> first | exact False.elim hfetches | trivial

/-- The octets that an event read from the primary file. -/
def Event.fetched : Event → Bytes
  | ⟨.fetchLine _ _ _, .ok line, _⟩ => line
  | _ => []

namespace Trace

/-- The octets that were read from the primary file, in order. -/
def fetched (tr : Trace) : Bytes := tr.flatMap Event.fetched

theorem fetched_append (tr rest : Trace) : fetched (tr ++ rest) = tr.fetched ++ rest.fetched :=
  List.flatMap_append

theorem fetched_fetchLine (tr : Trace) (id : FileId) (start stop : Nat) (line : Bytes) (struck : Bool) :
    fetched (tr ++ [⟨.fetchLine id start stop, .ok line, struck⟩]) = tr.fetched ++ line := by
  rw [fetched_append]
  exact congrArg (tr.fetched ++ ·) (List.append_nil line)

theorem fetched_eq_nil {tr : Trace} (hcalls : ∀ e ∈ tr, ¬e.call.Fetches) : tr.fetched = [] := by
  refine List.flatMap_eq_nil_iff.2 fun e he => ?_
  obtain ⟨c, answer, struck⟩ := e
  have hcall : ¬c.Fetches := hcalls _ he
  cases c with
  | fetchLine id start stop => exact absurd trivial hcall
  | _ => rfl

theorem fetched_of_idle {tr : Trace} (hidle : ∀ e ∈ tr, ¬e.call.Copies) : tr.fetched = [] :=
  fetched_eq_nil fun e he hfetches => hidle e he (.of_fetches hfetches)

end Trace

theorem Bytes.firstLine_append_drop (b : Bytes) :
    firstLine b ++ b.drop (firstLine b).length = b := by
  by_cases hb : b = []
  · rw [hb]
    rfl
  · have hlines := congrArg List.flatten (lines_eq_firstLine_cons hb)
    rw [List.flatten_cons, flatten_lines, flatten_lines] at hlines
    exact hlines.symm

namespace Rewrite

variable {r : Rewrite} {strikes : Strikes} {assumes : FileSystem → Prop} {paths : StorePaths}
  {update : Option Bytes → Option Bytes} {directory : Location} {before : FileSystem} {file : FileId}
  {written : Bytes} {tr : Trace} {s : Scene}

theorem not_fetches_of_handles {number : Nat} {c : Call} (hhandles : r.Handles number c) : ¬c.Fetches := by
  cases c <;> first | exact False.elim hhandles | exact fun hfetches => hfetches

theorem not_fetches_of_opens {c : Call} (hopens : r.Opens c) : ¬c.Fetches := by
  cases c <;> first | exact False.elim hopens | exact fun hfetches => hfetches

/-- Neither acquiring the store nor giving it up copies anything. -/
theorem not_copies_of_gates {c : Call} (hgates : r.Gates c) : ¬c.Copies := by
  cases c <;> first | exact False.elim hgates | exact fun hcopies => hcopies

/-- A rewrite that holds the store goes on holding it, and where it succeeds it has read some octets. -/
def Fetched (paths : StorePaths) (directory : Location) (before : FileSystem) (file : FileId) {α : Type}
    (octets : Bytes) (outcome : Except Failure α) (state : State) (tr : Trace) (s : Scene) : Prop :=
  ∃ written, state = writing file written ∧ Holds paths directory before file written tr s ∧
    ∀ value, outcome = .ok value → tr.fetched = octets

/-- Dealing with a line reads nothing. -/
theorem safe_handleLine_fetched (hhonest : strikes.Honest)
    (hholds : Holds paths directory before file written tr s) (number : Nat) (seen : Summary)
    (line : Bytes) : (r.handleLine number seen line).Safe (storeContract strikes assumes paths update)
      (fun _ state' tr' s' => (∃ written', state' = writing file written' ∧
        Holds paths directory before file written' tr' s') ∧ tr'.fetched = tr.fetched)
      (writing file written) tr s := by
  have hsafe : (r.handleLine number seen line).Safe (storeContract strikes assumes paths update)
      (fun _ state' tr' s' => ∃ written', state' = writing file written' ∧
        Holds paths directory before file written' tr' s') (writing file written) tr s :=
    safe_handleLine hhonest hholds number seen line (fun tr' s' hafter => ⟨_, rfl, hafter⟩)
      fun failure tr' s' hafter _ => ⟨_, rfl, hafter⟩
  refine Program.Safe.mono (Program.Safe.calling hsafe
    (((uses_handleLine number seen line).mono fun _ => not_fetches_of_handles) _)) ?_
  rintro ⟨outcome, state'⟩ tr' s' ⟨hafter, rest, rfl, hcalls⟩
  refine ⟨hafter, ?_⟩
  rw [Trace.fetched_append, Trace.fetched_eq_nil hcalls, List.append_nil]

/-- Dealing with the lines from an offset on reads the rest of the file. -/
theorem safe_fetching (hhonest : strikes.Honest) {opened : OpenedFile}
    (hid : opened.id < before.files.length)
    (hsize : opened.size = (before.dataOf opened.id).length)
    (limit offset number : Nat) (seen : Summary) (hlimit : opened.size < offset + limit)
    (hholds : Holds paths directory before file written tr s) {octets : Bytes}
    (hoctets : tr.fetched ++ (before.dataOf opened.id).drop offset = octets) :
    (r.handleLines opened limit offset number seen).Safe (storeContract strikes assumes paths update)
      (Fetched paths directory before file octets) (writing file written) tr s := by
  induction limit generalizing offset number seen written tr s with
  | zero =>
    have hdrop : (before.dataOf opened.id).drop offset = [] := by
      rw [List.drop_eq_nil_iff]
      omega
    rw [hdrop, List.append_nil] at hoctets
    exact Action.safe_pure ⟨written, rfl, hholds, fun _ _ => hoctets⟩
  | succ limit ih =>
    refine Action.safe_bind (hholds.safe_ask_leaving (c := .fetchLine opened.id offset opened.size) trivial
      ?_ fun failure s' _ hafter => ⟨written, rfl, hafter, fun _ hok => by cases hok⟩)
    intro w s' hfiles hafter
    have hdata : w.files.dataOf opened.id = before.dataOf opened.id := by
      rw [hfiles, dataOf, hholds.held.file _ hid, dataOf]
    have hline : w.files.lineAt opened.id offset opened.size =
        firstLine ((before.dataOf opened.id).drop offset) := by
      rw [← hdata]
      exact lineAt_eq_firstLine _ _ (by rw [hdata, hsize])
    simp only [World.answer, hline] at hafter ⊢
    have hread := tr.fetched_fetchLine opened.id offset opened.size
      (firstLine ((before.dataOf opened.id).drop offset)) false
    by_cases hend : (before.dataOf opened.id).drop offset = []
    · have hnone : firstLine ((before.dataOf opened.id).drop offset) = [] :=
        Bytes.firstLine_eq_nil_iff.2 hend
      rw [hnone] at hafter hread ⊢
      rw [hend] at hoctets
      exact Action.safe_pure ⟨written, rfl, hafter, fun _ _ => hread.trans hoctets⟩
    · have hempty : (firstLine ((before.dataOf opened.id).drop offset)).isEmpty = false := by
        simpa [Bytes.firstLine_eq_nil_iff] using hend
      have hpositive : (firstLine ((before.dataOf opened.id).drop offset)).length ≠ 0 := by
        simpa [Bytes.firstLine_eq_nil_iff] using hend
      simp only [Action.andThen, hempty, Bool.false_eq_true, if_false]
      refine Action.safe_bind ((safe_handleLine_fetched hhonest hafter number seen _).mono ?_)
      rintro (failure | seen') state' tr' s'' ⟨⟨written', rfl, hholds'⟩, hsame⟩
      · exact ⟨written', rfl, hholds', fun _ hok => by cases hok⟩
      · refine ih _ _ _ (by omega) hholds' ?_
        rw [hsame, hread, List.append_assoc, ← List.drop_drop, Bytes.firstLine_append_drop]
        exact hoctets

/-- Copying the lines of the opened file reads all of it. -/
theorem safe_copyLines_fetched (hhonest : strikes.Honest) {opened : OpenedFile}
    (hid : opened.id < before.files.length)
    (hsize : opened.size = (before.dataOf opened.id).length)
    (hholds : Holds paths directory before file written tr s) :
    (r.copyLines opened).Safe (storeContract strikes assumes paths update)
      (Fetched paths directory before file (tr.fetched ++ before.dataOf opened.id)) (writing file written)
      tr s := by
  have hclose : ∀ (outcome : Except Failure Summary) (state' : State) (tr' : Trace) s',
      Fetched paths directory before file (tr.fetched ++ before.dataOf opened.id) outcome state' tr' s' →
      (Action.ask (.closePrimary opened.id)).Safe (storeContract strikes assumes paths update)
        (Action.andThen (storeContract strikes assumes paths update)
          (fun _ => MonadExcept.ofExcept outcome)
          (Fetched paths directory before file (tr.fetched ++ before.dataOf opened.id))) state' tr' s' := by
    rintro outcome state' tr' s' ⟨written', rfl, hafter, hread⟩
    refine hafter.safe_ask_leaving (c := .closePrimary opened.id) trivial ?_ ?_
    · intro w s'' _ hclosed
      have hsame : Trace.fetched (tr' ++ [⟨.closePrimary opened.id, .ok (), false⟩]) = tr'.fetched := by
        rw [Trace.fetched_append]
        exact List.append_nil _
      cases outcome with
      | ok seen => exact Action.safe_pure ⟨written', rfl, hclosed, fun _ _ => hsame.trans (hread seen rfl)⟩
      | error failure => exact Action.safe_throw ⟨written', rfl, hclosed, fun _ hok => by cases hok⟩
    · exact fun failure s'' _ hclosed => ⟨written', rfl, hclosed, fun _ hok => by cases hok⟩
  refine Action.safe_thenAlways (Action.safe_onSystemError ?_)
  refine (safe_fetching hhonest hid hsize _ 0 1 {} (by omega) hholds rfl).mono ?_
  rintro (failure | seen) state' tr' s' ⟨written', rfl, hafter, hread⟩
  · refine Action.orElse_throw (fun _ => ⟨_, rfl⟩) (fun failure => ?_) failure
    exact hclose _ _ tr' s' ⟨written', rfl, hafter, fun _ hok => by cases hok⟩
  · exact hclose _ _ tr' s' ⟨written', rfl, hafter, hread⟩

/-- Opening the primary file reads nothing, and the file that is opened holds the octets of the primary
    file. -/
theorem safe_openPrimary_fetched (hprimary : r.primary = paths.primary) (hhonest : strikes.Honest)
    (hholds : Holds paths directory before file written tr s) {state : State}
    {post : Except Failure (Option OpenedFile) → State → Trace → Scene → Prop}
    (hopened : ∀ opened (tr' : Trace) s', tr'.fetched = tr.fetched →
      Holds paths directory before file written tr' s' → opened.id < before.files.length →
      opened.size = (before.dataOf opened.id).length →
      before.contents? paths.primary = some (before.dataOf opened.id) →
      post (.ok (some opened)) state tr' s')
    (hmissing : ∀ (tr' : Trace) s', tr'.fetched = tr.fetched →
      before.contents? paths.primary = none → post (.ok none) state tr' s')
    (hfailed : ∀ failure tr' s', post (.error failure) state tr' s') :
    r.openPrimary.Safe (storeContract strikes assumes paths update) post state tr s := by
  have hcontents := contents?_eq hholds.held.lead_before.primary
  have hsafe : r.openPrimary.Safe (storeContract strikes assumes paths update)
      (fun outcome state' (tr' : Trace) s' => tr'.fetched = tr.fetched → post outcome state' tr' s')
      state tr s := by
    refine safe_openPrimary hprimary hhonest hholds ?_ ?_ fun failure tr' s' _ _ _ =>
      hfailed failure tr' s'
    · intro opened tr' s' hafter hentry hsize hfetched
      rw [hentry] at hcontents
      have hid := hholds.held.sound_before.file_lt _ _ hentry
      exact hopened opened tr' s' hfetched hafter hid hsize hcontents
    · intro tr' s' _ hentry hfetched
      rw [hentry] at hcontents
      exact hmissing tr' s' hfetched hcontents
  refine Program.Safe.mono (Program.Safe.calling hsafe
    ((uses_openPrimary.mono fun _ => not_fetches_of_opens) _)) ?_
  rintro ⟨outcome, state'⟩ tr' s' ⟨hpost, rest, rfl, hcalls⟩
  refine hpost ?_
  rw [Trace.fetched_append, Trace.fetched_eq_nil hcalls, List.append_nil]

/-- A rewrite that has copied the lines has read the whole primary file, if there is one. -/
theorem safe_merge_fetched (hprimary : r.primary = paths.primary) (hhonest : strikes.Honest)
    (hholds : Holds paths directory before file written tr s) :
    r.merge.Safe (storeContract strikes assumes paths update)
      (fun outcome _ tr' _ => ∀ seen, outcome = .ok seen →
        tr'.fetched = tr.fetched ++ (before.contents? paths.primary).getD []) (writing file written) tr
      s := by
  refine Action.safe_get_bind ?_
  refine Action.safe_bind (safe_openPrimary_fetched hprimary hhonest hholds ?_ ?_ ?_)
  · intro opened tr' s' hsame hafter hid hsize hcontents
    refine Action.andThen_of_ok rfl ?_
    refine Action.safe_bind ((safe_copyLines_fetched hhonest hid hsize hafter).mono ?_)
    rintro (failure | seen) state'' tr'' s'' ⟨written', rfl, hcopied, hread⟩
    · intro seen hok
      cases hok
    · rw [Action.andThen_ok]
      refine Action.safe_bind (Action.safe_note hhonest _ fun _ _ s₃ _ _ => ?_)
      refine Action.andThen_of_ok rfl (Action.safe_pure fun _ _ => ?_)
      rw [hcontents, Option.getD_some, ← hsame, ← hread seen rfl, Trace.fetched_append]
      exact List.append_nil _
  · intro tr' s' hsame hnone
    refine Action.andThen_of_ok rfl ?_
    refine Action.safe_pure fun _ _ => ?_
    rw [hsame, hnone, Option.getD_none, List.append_nil]
  · intro failure tr' s' seen hok
    cases hok

end Rewrite

end CredentialStore
