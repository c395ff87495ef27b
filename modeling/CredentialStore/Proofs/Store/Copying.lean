import CredentialStore.Proofs.Store.Holding
import CredentialStore.Proofs.Store.Survivors

namespace CredentialStore

open FileSystem StorePaths

theorem FileSystem.lineAt_eq_firstLine (fs : FileSystem) (id : FileId) {offset size : Nat}
    (hsize : size = (fs.dataOf id).length) :
    fs.lineAt id offset size = firstLine ((fs.dataOf id).drop offset) := by
  have hlength := Bytes.length_firstLine_le ((fs.dataOf id).drop offset)
  rw [List.length_drop, ← hsize] at hlength
  exact List.take_of_length_le hlength

theorem World.answer_openPrimary (w : World) (path : Text) :
    (w.answer (.openPrimary path)).1 = match w.files.openFile path with
      | .ok id => .ok ⟨id, (w.files.dataOf id).length⟩
      | .error failure => .error failure := by
  simp only [World.answer]
  cases w.files.openFile path <;> rfl

namespace Rewrite

/-- The state of a rewrite that has written octets to its staging file. -/
def writing (file : FileId) (written : Bytes) : State where
  stream := some file
  owned := true
  needsNewline := written.endsOpen

/-- A rewrite that still has to let go of the store. -/
structure Underway (paths : StorePaths) (directory : Location) (before : FileSystem) (file : FileId)
    (state : State) (tr : Trace) (s : Scene) : Prop where
  owned : state.owned = true
  stream : state.stream = none ∨ state.stream = some file
  holds : ∃ written, Holds paths directory before file written tr s

variable {r : Rewrite} {strikes : Strikes} {assumes : FileSystem → Prop} {paths : StorePaths}
  {update : Option Bytes → Option Bytes} {directory : Location} {before : FileSystem} {file : FileId}
  {written : Bytes} {tr : Trace} {s : Scene}

theorem underway_writing (hholds : Holds paths directory before file written tr s) (octets : Bytes) :
    Underway paths directory before file (writing file octets) tr s :=
  ⟨rfl, .inr rfl, written, hholds⟩

theorem safe_write (hholds : Holds paths directory before file written tr s) (octets : Bytes)
    {post : Except Failure Unit → State → Trace → Scene → Prop}
    (hok : ∀ tr' s', Holds paths directory before file (written ++ octets) tr' s' →
      post (.ok ()) (writing file (written ++ octets)) tr' s')
    (hfailed : ∀ failure tr' s', Holds paths directory before file written tr' s' → tr'.Disturbed →
      post (.error failure) (writing file written) tr' s') :
    (write octets).Safe (storeContract strikes assumes paths update) post (writing file written) tr
      s := by
  refine Action.safe_bind (Action.safe_get ?_)
  refine Action.safe_bind (Action.safe_onSystemError (hholds.safe_write octets ?_ ?_))
  · intro tr' s' hafter
    change Action.Safe _ _ post _ tr' s'
    have hpost := hok tr' s' hafter
    cases hlast : octets.getLast? with
    | none =>
      rw [List.getLast?_eq_none_iff.1 hlast, List.append_nil] at hpost
      exact hpost
    | some last =>
      have hopen : (written ++ octets).endsOpen = decide (last ≠ lineFeed) := by
        simp [Bytes.endsOpen, List.getLast?_append, hlast]
      simp only [writing, hopen] at hpost
      exact Action.safe_modify hpost
  · intro failure tr' s' hdisturbed hafter
    refine Action.orElse_throw (fun _ => ⟨_, rfl⟩) (fun failure => ?_) failure
    exact hfailed failure tr' s' hafter hdisturbed

/-- A line is copied, or noted, or taken for the record that is looked for. -/
theorem safe_handleLine (hhonest : strikes.Honest)
    (hholds : Holds paths directory before file written tr s) (number : Nat) (seen : Summary)
    (line : Bytes) {post : Except Failure Summary → State → Trace → Scene → Prop}
    (hok : ∀ tr' s', Holds paths directory before file
        (written ++ (r.copiedOf seen [line]).flatten) tr' s' →
      post (.ok (r.seenOf seen [line])) (writing file (written ++ (r.copiedOf seen [line]).flatten)) tr'
        s')
    (hfailed : ∀ failure tr' s', Holds paths directory before file written tr' s' → tr'.Disturbed →
      post (.error failure) (writing file written) tr' s') :
    (r.handleLine number seen line).Safe (storeContract strikes assumes paths update) post
      (writing file written) tr s := by
  unfold handleLine
  simp only [copiedOf, seenOf] at hok
  cases hfate : r.fate seen.matched line with
  | copied =>
    simp only [hfate, List.flatten_cons, List.flatten_nil, List.append_nil] at hok
    refine Action.safe_bind (safe_write hholds line ?_ hfailed)
    intro tr' s' hafter
    exact Action.safe_pure (hok tr' s' hafter)
  | dropped =>
    simp only [hfate, List.flatten_nil, List.append_nil] at hok
    refine Action.safe_bind (hholds.safe_note hhonest _ ?_)
    intro tr' s' hafter _
    exact Action.safe_pure (hok tr' s' hafter)
  | matched record =>
    simp only [hfate, List.flatten_nil, List.append_nil] at hok
    exact Action.safe_pure (hok tr s hholds)

/-- Dealing with the lines from an offset on copies those that survive. -/
theorem safe_handleLines (hhonest : strikes.Honest) {opened : OpenedFile}
    (hid : opened.id < before.files.length)
    (hsize : opened.size = (before.dataOf opened.id).length)
    (limit offset number : Nat) (seen : Summary)
    (hlimit : opened.size < offset + limit)
    (hholds : Holds paths directory before file written tr s)
    {post : Except Failure Summary → State → Trace → Scene → Prop}
    (hok : ∀ tr' s', Holds paths directory before file (written ++
        (r.copiedOf seen (Bytes.lines ((before.dataOf opened.id).drop offset))).flatten) tr' s' →
      post (.ok (r.seenOf seen (Bytes.lines ((before.dataOf opened.id).drop offset))))
        (writing file (written ++
          (r.copiedOf seen (Bytes.lines ((before.dataOf opened.id).drop offset))).flatten)) tr' s')
    (hfailed : ∀ failure written' tr' s', Holds paths directory before file written' tr' s' →
      tr'.Disturbed → post (.error failure) (writing file written') tr' s') :
    (r.handleLines opened limit offset number seen).Safe (storeContract strikes assumes paths update)
      post (writing file written) tr s := by
  induction limit generalizing offset number seen written tr s with
  | zero =>
    have hdrop : (before.dataOf opened.id).drop offset = [] := by
      rw [List.drop_eq_nil_iff]
      omega
    simp only [hdrop, Bytes.lines_nil, copiedOf, seenOf, List.flatten_nil, List.append_nil] at hok
    exact Action.safe_pure (hok tr s hholds)
  | succ limit ih =>
    refine Action.safe_bind (hholds.safe_ask_leaving (c := .fetchLine opened.id offset opened.size) trivial
      ?_ fun failure s' _ hafter => hfailed failure written _ s' hafter
        (Trace.disturbed_append_struck tr _ failure))
    intro w s' hfiles hafter
    have hdata : w.files.dataOf opened.id = before.dataOf opened.id := by
      rw [hfiles, dataOf, hholds.held.file _ hid, dataOf]
    have hline : w.files.lineAt opened.id offset opened.size =
        firstLine ((before.dataOf opened.id).drop offset) := by
      rw [← hdata]
      exact lineAt_eq_firstLine _ _ (by rw [hdata, hsize])
    simp only [World.answer, hline] at hafter ⊢
    by_cases hend : (before.dataOf opened.id).drop offset = []
    · simp only [hend, Bytes.lines_nil, copiedOf, seenOf, List.flatten_nil, List.append_nil] at hok
      simp only [hend, firstLine, Action.andThen, List.isEmpty_nil, if_true]
      exact Action.safe_pure (hok _ s' (by simpa only [hend, firstLine] using hafter))
    · have hlines := Bytes.lines_eq_firstLine_cons hend
      have hempty : (firstLine ((before.dataOf opened.id).drop offset)).isEmpty = false := by
        simpa [Bytes.firstLine_eq_nil_iff] using hend
      have hpositive : (firstLine ((before.dataOf opened.id).drop offset)).length ≠ 0 := by
        simpa [Bytes.firstLine_eq_nil_iff] using hend
      simp only [Action.andThen, hempty, Bool.false_eq_true, if_false]
      refine Action.safe_bind (safe_handleLine hhonest hafter number seen _ ?_ fun failure tr' s' h =>
        hfailed failure written tr' s' h)
      intro tr' s'' hafter
      refine ih _ _ _ (by omega) hafter ?_
      rw [hlines, List.drop_drop, seenOf_cons, copiedOf_cons, List.flatten_append,
        ← List.append_assoc] at hok
      exact hok

/-- The primary file is opened as it was before the store was held, if there is one. -/
theorem safe_openPrimary (hprimary : r.primary = paths.primary) (hhonest : strikes.Honest)
    (hholds : Holds paths directory before file written tr s) {state : State}
    {post : Except Failure (Option OpenedFile) → State → Trace → Scene → Prop}
    (hopened : ∀ opened tr' s', Holds paths directory before file written tr' s' →
      before.entry? (primaryAt directory) = some (.file opened.id) →
      opened.size = (before.dataOf opened.id).length → post (.ok (some opened)) state tr' s')
    (hmissing : ∀ tr' s', Holds paths directory before file written tr' s' →
      before.entry? (primaryAt directory) = none → post (.ok none) state tr' s')
    (hfailed : ∀ failure tr' s', Holds paths directory before file written tr' s' →
      Hindered directory before tr' → post (.error failure) state tr' s') :
    r.openPrimary.Safe (storeContract strikes assumes paths update) post state tr s := by
  have hentry := hholds.held.entry_primary
  have hopen := openFile_of_locate hholds.held.lead.primary
  rw [hentry] at hopen
  refine Action.safe_onSystemError (Action.safe_bind (hholds.safe_ask_leaving
    (c := .openPrimary r.primary) trivial ?_ ?_))
  · intro w s' hfiles hafter
    rw [w.answer_openPrimary, hfiles, hprimary] at hafter ⊢
    cases hbefore : before.entry? (primaryAt directory) with
    | none =>
      rw [hbefore] at hopen
      rw [hopen] at hafter ⊢
      exact hmissing _ s' hafter hbefore
    | some entry =>
      cases entry with
      | directory =>
        rw [hbefore] at hopen
        rw [hopen] at hafter ⊢
        exact hfailed _ _ s' hafter (.inr (.inl hbefore))
      | file id =>
        rw [hbefore] at hopen
        rw [hopen] at hafter ⊢
        have hid := hholds.held.sound_before.file_lt _ _ hbefore
        refine hopened ⟨id, _⟩ _ s' hafter hbefore ?_
        rw [dataOf, hholds.held.file id hid, dataOf]
  · intro failure s' hstrikes hafter
    have hdisturbed := Trace.disturbed_append_struck tr (.openPrimary r.primary) failure
    by_cases hmiss : failure = .numbered .notFound
    · subst hmiss
      have hnone := hhonest.missing _ _ hstrikes _ rfl
      rw [hprimary, entryAt?_of_locate hholds.held.lead.primary, hentry] at hnone
      exact hmissing _ s' hafter hnone
    · exact Action.orElse_unlessMissing hmiss fun f => hfailed f _ s' hafter (.inl hdisturbed)

/-- All lines of the opened file are dealt with, and it is closed again. -/
theorem safe_copyLines (hhonest : strikes.Honest) {opened : OpenedFile}
    (hid : opened.id < before.files.length)
    (hsize : opened.size = (before.dataOf opened.id).length)
    (hholds : Holds paths directory before file [] tr s)
    {post : Except Failure Summary → State → Trace → Scene → Prop}
    (hok : ∀ tr' s', Holds paths directory before file
        (r.copiedOf {} (Bytes.lines (before.dataOf opened.id))).flatten tr' s' →
      post (.ok (r.seenOf {} (Bytes.lines (before.dataOf opened.id))))
        (writing file (r.copiedOf {} (Bytes.lines (before.dataOf opened.id))).flatten) tr' s')
    (hfailed : ∀ failure written tr' s', Holds paths directory before file written tr' s' →
      tr'.Disturbed → post (.error failure) (writing file written) tr' s') :
    (r.copyLines opened).Safe (storeContract strikes assumes paths update) post (writing file []) tr
      s := by
  -- whatever was seen, closing the file can still be struck
  have hclose : ∀ (outcome : Except Failure Summary) written tr' s',
      Holds paths directory before file written tr' s' →
      (∀ tr'' s'', Holds paths directory before file written tr'' s'' → tr' <+: tr'' →
        post outcome (writing file written) tr'' s'') →
      (Action.ask (.closePrimary opened.id)).Safe (storeContract strikes assumes paths update)
        (Action.andThen (storeContract strikes assumes paths update)
          (fun _ => MonadExcept.ofExcept outcome) post) (writing file written) tr' s' := by
    intro outcome written tr' s' hholds hpost
    refine hholds.safe_ask_leaving (c := .closePrimary opened.id) trivial ?_ ?_
    · intro w s'' _ hafter
      cases outcome with
      | ok seen => exact Action.safe_pure (hpost _ s'' hafter (List.prefix_append _ _))
      | error failure => exact Action.safe_throw (hpost _ s'' hafter (List.prefix_append _ _))
    · intro failure s'' _ hafter
      exact hfailed failure written _ s'' hafter (Trace.disturbed_append_struck tr' _ failure)
  refine Action.safe_thenAlways (Action.safe_onSystemError ?_)
  refine safe_handleLines hhonest hid hsize _ 0 1 {} (by omega) hholds ?_ ?_
  · rw [List.drop_zero, List.nil_append]
    intro tr' s' hafter
    exact hclose _ _ tr' s' hafter fun tr'' s'' hholds _ => hok tr'' s'' hholds
  · intro failure written tr' s' hafter hdisturbed
    refine Action.orElse_throw (fun _ => ⟨_, rfl⟩) (fun failure => ?_) failure
    exact hclose _ written tr' s' hafter fun tr'' s'' hholds hbegins =>
      hfailed failure written tr'' s'' hholds (hdisturbed.extended hbegins)

/-- The lines that survive are copied from the primary file to the staging file, and the record that is
    left out is the first one that is looked for. -/
theorem safe_merge (hprimary : r.primary = paths.primary) (hhonest : strikes.Honest)
    (hholds : Holds paths directory before file [] tr s)
    {post : Except Failure Summary → State → Trace → Scene → Prop}
    (hok : ∀ seen tr' s', seen.matched = Record.firstFor? r.identity r.realm
        (Bytes.lines ((before.contents? paths.primary).getD [])) →
      Holds paths directory before file (Record.survivors r.identity r.realm
        (Bytes.lines ((before.contents? paths.primary).getD []))).flatten tr' s' →
      post (.ok seen) (writing file (Record.survivors r.identity r.realm
        (Bytes.lines ((before.contents? paths.primary).getD []))).flatten) tr' s')
    (hfailed : ∀ failure written tr' s', Holds paths directory before file written tr' s' →
      Hindered directory before tr' → post (.error failure) (writing file written) tr' s') :
    r.merge.Safe (storeContract strikes assumes paths update) post (writing file []) tr s := by
  have hcontents := contents?_eq hholds.held.lead_before.primary
  refine Action.safe_bind (Action.safe_get ?_)
  refine Action.safe_bind (safe_openPrimary hprimary hhonest hholds ?_ ?_ ?_)
  · intro opened tr' s' hafter hentry hsize
    have hid := hholds.held.sound_before.file_lt _ _ hentry
    rw [hentry] at hcontents
    simp only [hcontents, Option.getD_some] at hok
    refine Action.safe_bind (safe_copyLines hhonest hid hsize hafter ?_ ?_)
    · intro tr'' s'' hafter
      rw [copiedOf_eq_survivors r rfl] at hafter ⊢
      refine Action.safe_bind (hafter.safe_note hhonest _ fun tr₃ s₃ hafter _ => ?_)
      exact Action.safe_pure (hok _ tr₃ s₃ (seenOf_matched r rfl _) hafter)
    · intro failure written tr'' s'' hafter hdisturbed
      exact hfailed failure written tr'' s'' hafter (.inl hdisturbed)
  · intro tr' s' hafter hentry
    rw [hentry] at hcontents
    simp only [hcontents, Option.getD_none] at hok
    exact Action.safe_pure (hok _ tr' s' rfl hafter)
  · intro failure tr' s' hafter hhindered
    exact hfailed failure [] tr' s' hafter hhindered

end Rewrite

end CredentialStore
