import CredentialStore.Proofs.Store.Copying
import CredentialStore.Proofs.Store.Parts

namespace CredentialStore

open FileSystem StorePaths

/-- Whether a program that held the store gave it up: it removed its staging file, or a call that cleans
    up failed. -/
def Trace.GivenUp (tr : Trace) : Prop :=
  tr.standing = .removed ∨ (∃ file, tr.standing = .holding file) ∧ tr.Disturbed ∧ tr.CleanUpFailed

variable {strikes : Strikes} {assumes : FileSystem → Prop} {paths : StorePaths}
  {update : Option Bytes → Option Bytes} {directory : Location} {before : FileSystem} {file : FileId}
  {written : Bytes} {tr : Trace} {s : Scene}

/-- Whether the last call of a program was to close the staging file, and succeeded. -/
def Trace.Closed (file : FileId) (tr : Trace) : Prop :=
  tr.getLast? = some ⟨.closeStaging file, .ok (), false⟩

theorem Trace.GivenUp.append {e : Event} (hgiven : tr.GivenUp) (hturn : e.turn? = none) :
    GivenUp (tr ++ [e]) := by
  have hnext : standing (tr ++ [e]) = tr.standing := by
    rw [standing_append_singleton, Standing.next, hturn, Option.getD_none]
  have hbegins : tr <+: tr ++ [e] := List.prefix_append tr [e]
  rcases hgiven with hremoved | ⟨hholding, hdisturbed, hfailed⟩
  · exact .inl (hnext.trans hremoved)
  · exact .inr ⟨hnext ▸ hholding, hdisturbed.extended hbegins, hfailed.extended hbegins⟩

/-- Where removing the staging file is struck, this is only noted. -/
theorem Holds.safe_giveUp {σ : Type} {state : σ} (hhonest : strikes.Honest)
    (honly : strikes.OnlySystem) (hholds : Holds paths directory before file written tr s)
    (part : Log.Part) {post : Except Failure Unit → σ → Trace → Scene → Prop}
    (hpost : ∀ (tr' : Trace) s', tr'.GivenUp → tr <+: tr' → post (.ok ()) state tr' s') :
    (removeStaging part paths.staging).Safe (storeContract strikes assumes paths update) post state tr s := by
  have hgive : ∀ post' : Except Failure Unit → σ → Trace → Scene → Prop,
      (∀ (tr' : Trace) s', tr'.GivenUp → post' (.ok ()) state tr' s') →
      (removeStaging part paths.staging).Safe (storeContract strikes assumes paths update) post' state tr
        s := by
    intro post' hpost'
    refine Action.safe_onSystemError (hholds.safe_unlinkStaging ?_ ?_)
    · intro tr' s' hremoved
      exact hpost' tr' s' (.inl hremoved)
    · intro failure tr' s' hstrikes hafter hdisturbed hfailed
      obtain ⟨error, rfl⟩ := honly _ _ _ hstrikes
      have hgiven : tr'.GivenUp := .inr ⟨⟨file, hafter.standing⟩, hdisturbed, hfailed⟩
      refine Action.orElse_missing (fun _ => ?_) fun _ => ?_
      · exact Action.safe_pure (hpost' tr' s' hgiven)
      · exact Action.safe_note hhonest _ fun _ _ s'' _ _ => hpost' _ s'' (hgiven.append rfl)
  refine (hgive (fun outcome state' tr' _ => (outcome = .ok () ∧ state' = state) ∧ tr'.GivenUp)
    fun _ _ hgiven => ⟨⟨rfl, rfl⟩, hgiven⟩).extending.mono ?_
  rintro outcome state' tr' s' ⟨⟨⟨rfl, rfl⟩, hgiven⟩, hbegins⟩
  exact hpost tr' s' hgiven hbegins

namespace Rewrite

variable {r : Rewrite}

theorem safe_closeGivenUp {state : State} (hhonest : strikes.Honest) (honly : strikes.OnlySystem)
    (hholds : Holds paths directory before file written tr s)
    {post : Except Failure Unit → State → Trace → Scene → Prop}
    (hpost : ∀ tr' s', Holds paths directory before file written tr' s' → tr <+: tr' →
      post (.ok ()) state tr' s') :
    (r.closeGivenUp file).Safe (storeContract strikes assumes paths update) post state tr s := by
  have hclose : ∀ post' : Except Failure Unit → State → Trace → Scene → Prop,
      (∀ tr' s', Holds paths directory before file written tr' s' → post' (.ok ()) state tr' s') →
      (r.closeGivenUp file).Safe (storeContract strikes assumes paths update) post' state tr s := by
    intro post' hpost'
    refine Action.safe_onSystemError (hholds.safe_ask_leaving (c := .closeStaging file) trivial ?_ ?_)
    · intro w s' _ hafter
      exact hpost' _ s' hafter
    · intro failure s' hstrikes hafter
      obtain ⟨error, rfl⟩ := honly _ _ _ hstrikes
      exact hafter.safe_note hhonest _ fun _ _ hafter _ => hpost' _ _ hafter
  refine (hclose (fun outcome state' tr' s' => (outcome = .ok () ∧ state' = state) ∧
    Holds paths directory before file written tr' s') fun _ _ hafter =>
      ⟨⟨rfl, rfl⟩, hafter⟩).extending.mono ?_
  rintro outcome state' tr' s' ⟨⟨⟨rfl, rfl⟩, hafter⟩, hbegins⟩
  exact hpost tr' s' hafter hbegins

/-- Giving up removes the staging file, unless the call that removes it is struck. -/
theorem safe_discard (hstaging : r.staging = paths.staging) (hhonest : strikes.Honest)
    (honly : strikes.OnlySystem) {state : State}
    (hunderway : Underway paths directory before file state tr s)
    {post : Except Failure Unit → State → Trace → Scene → Prop}
    (hpost : ∀ state' (tr' : Trace) s', tr'.GivenUp → tr <+: tr' → post (.ok ()) state' tr' s') :
    r.discard.Safe (storeContract strikes assumes paths update) post state tr s := by
  obtain ⟨howned, hstream, written, hholds⟩ := hunderway
  have hremove : ∀ state' : State, state'.owned = true → ∀ tr' s',
      Holds paths directory before file written tr' s' →
      r.removeOwned.Safe (storeContract strikes assumes paths update)
        (fun outcome _ tr'' _ => outcome = .ok () ∧ tr''.GivenUp) state' tr' s' := by
    intro state' howned tr' s' hholds
    refine Action.safe_get_bind ?_
    rw [if_pos howned, hstaging]
    refine Action.safe_modify_bind ?_
    exact hholds.safe_giveUp hhonest honly _ fun _ _ hgiven _ => ⟨rfl, hgiven⟩
  have hdiscard : r.discard.Safe (storeContract strikes assumes paths update)
      (fun outcome _ tr' _ => outcome = .ok () ∧ tr'.GivenUp) state tr s := by
    obtain ⟨stream, owned, needsNewline⟩ := state
    refine Action.safe_get_bind ?_
    rcases hstream with hstream | hstream
    · cases hstream
      exact hremove _ howned tr s hholds
    · cases hstream
      refine Action.safe_modify_bind ?_
      refine Action.safe_bind (safe_closeGivenUp hhonest honly hholds ?_)
      intro tr' s' hafter _
      exact hremove ⟨none, owned, needsNewline⟩ howned tr' s' hafter
  refine hdiscard.extending.mono ?_
  rintro outcome state' tr' s' ⟨⟨rfl, hgiven⟩, hbegins⟩
  exact hpost state' tr' s' hgiven hbegins

/-- A created staging file is made ready for writing; where that is struck it is given up. -/
theorem safe_openStream (hstaging : r.staging = paths.staging) (hhonest : strikes.Honest)
    (honly : strikes.OnlySystem) (hholds : Holds paths directory before file [] tr s)
    {post : Except Failure Unit → State → Trace → Scene → Prop}
    (hok : ∀ tr' s', Holds paths directory before file [] tr' s' →
      post (.ok ()) (writing file []) tr' s')
    (hfailed : ∀ failure state' (tr' : Trace) s', tr'.GivenUp → tr'.Disturbed →
      post (.error failure) state' tr' s') :
    (r.openStream file).Safe (storeContract strikes assumes paths update) post ⟨none, true, false⟩ tr
      s := by
  refine Action.safe_onSystemError (Action.safe_bind (hholds.safe_ask_leaving (c := .openStream file)
    trivial ?_ ?_))
  · intro w s' _ hafter
    exact hok _ s' hafter
  · intro failure s' hstrikes hafter
    obtain ⟨error, rfl⟩ := honly _ _ _ hstrikes
    have hdisturbed := Trace.disturbed_append_struck tr (.openStream file) (.system error)
    refine Action.safe_bind (hafter.safe_ask_leaving (c := .abandonStream file) trivial ?_ ?_)
    · intro w s'' _ hafter
      refine Action.safe_bind (safe_discard hstaging hhonest honly ⟨rfl, .inl rfl, [], hafter⟩ ?_)
      intro state' tr' s' hgiven hbegins
      refine hfailed _ state' tr' s' hgiven (hdisturbed.extended ?_)
      exact (List.prefix_append _ _).trans hbegins
    · intro failure s'' _ hafter
      have hdisturbed' := hdisturbed.extended (List.prefix_append _
        [⟨.abandonStream file, .error failure, true⟩])
      refine hfailed failure _ _ s'' (.inr ⟨⟨file, hafter.standing⟩, hdisturbed', ?_⟩) hdisturbed'
      exact ⟨_, List.mem_append_right _ (List.mem_singleton_self _), ⟨failure, rfl⟩, .inl ⟨_, rfl⟩⟩

/-- Acquiring a store holds it, with nothing written yet; it fails only where the store is not ready for
    it or where a failure strikes. -/
theorem safe_acquire {root : Text} (hstaging : r.staging = (StorePaths.locate root).staging)
    (hhonest : strikes.Honest) (honly : strikes.OnlySystem) (hsound : ∀ fs, assumes fs → fs.Sound)
    (houtside : tr.standing = .outside)
    {post : Except Failure Unit → State → Trace → Scene → Prop}
    (hok : ∀ directory before file tr' s', assumes before →
      (StorePaths.locate root).LeadTo before directory → before.entry? (stagingAt directory) = none →
      Holds (StorePaths.locate root) directory before file [] tr' s' →
      post (.ok ()) (writing file []) tr' s')
    (hrefused : ∀ failure before tr' s', assumes before → tr'.standing = .outside →
      tr'.Disturbed ∨ (∀ directory, ¬(StorePaths.locate root).Ready directory before) →
      post (.error failure) {} tr' s')
    (hfailed : ∀ failure state' (tr' : Trace) s', tr'.GivenUp → tr'.Disturbed →
      post (.error failure) state' tr' s') :
    r.acquire.Safe (storeContract strikes assumes (StorePaths.locate root) update) post {} tr s := by
  refine Action.safe_bind (Action.safe_onSystemError ?_)
  rw [hstaging]
  refine Action.safe_createStaging hsound houtside ?_ ?_
  · intro directory before file tr' s' hassumes hlead hfree hholds
    refine Action.safe_bind (Action.safe_modify ?_)
    exact safe_openStream hstaging hhonest honly hholds
      (fun tr'' s'' => hok directory before file tr'' s'' hassumes hlead hfree) hfailed
  · intro failure before tr' s' hassumes hstanding hwhy
    refine Action.orElse_throw (fun error => ?_) (fun failure => ?_) failure
    · split <;> exact ⟨_, rfl⟩
    · exact hrefused failure before tr' s' hassumes hstanding hwhy

theorem safe_writeLine {line? : Option Bytes} (hholds : Holds paths directory before file written tr s)
    {post : Except Failure Unit → State → Trace → Scene → Prop}
    (hok : ∀ line tr' s', line? = some line →
      Holds paths directory before file (written ++ line) tr' s' →
      post (.ok ()) (writing file (written ++ line)) tr' s')
    (hnone : line? = none → post (.error .unencodable) (writing file written) tr s)
    (hfailed : ∀ failure tr' s', Holds paths directory before file written tr' s' →
      tr'.Disturbed → post (.error failure) (writing file written) tr' s') :
    (writeLine line?).Safe (storeContract strikes assumes paths update) post (writing file written) tr s := by
  cases line? with
  | none => exact Action.safe_throw (hnone rfl)
  | some line => exact safe_write hholds line (hok line · · rfl) hfailed

/-- The record is added on a line of its own, unless it has no line or a failure strikes. -/
theorem safe_append (hholds : Holds paths directory before file written tr s) (record : Record)
    {post : Except Failure Unit → State → Trace → Scene → Prop}
    (hok : ∀ line tr' s', record.toLine? = some line →
      Holds paths directory before file (written.terminated ++ line) tr' s' →
      post (.ok ()) (writing file (written.terminated ++ line)) tr' s')
    (hunencodable : ∀ tr' s', record.toLine? = none →
      Holds paths directory before file written.terminated tr' s' →
      post (.error .unencodable) (writing file written.terminated) tr' s')
    (hfailed : ∀ failure written' tr' s', Holds paths directory before file written' tr' s' →
      tr'.Disturbed → post (.error failure) (writing file written') tr' s') :
    (append record).Safe (storeContract strikes assumes paths update) post (writing file written) tr
      s := by
  refine Action.safe_get_bind ?_
  by_cases hopen : (writing file written).needsNewline = true
  · have hterminated : written.terminated = written ++ [lineFeed] := if_pos hopen
    rw [if_pos hopen]
    refine Action.safe_bind (safe_write hholds [lineFeed] ?_ fun failure => hfailed failure written)
    rw [← hterminated]
    intro tr' s' hafter
    exact safe_writeLine hafter hok (hunencodable tr' s' · hafter) (hfailed · _)
  · have hterminated : written.terminated = written := if_neg hopen
    rw [if_neg hopen]
    rw [hterminated] at hok hunencodable
    exact safe_writeLine hholds hok (hunencodable tr s · hholds) (hfailed · _)

/-- Closing leaves the staging file with everything written, unless a failure strikes. -/
theorem safe_close (hhonest : strikes.Honest) (honly : strikes.OnlySystem)
    (hholds : Holds paths directory before file written tr s)
    {post : Except Failure Unit → State → Trace → Scene → Prop}
    (hok : ∀ state' tr' s', Holds paths directory before file written tr' s' → tr'.Closed file →
      post (.ok ()) state' tr' s')
    (hfailed : ∀ failure state' tr' s', Underway paths directory before file state' tr' s' →
      tr'.Disturbed → post (.error failure) state' tr' s') :
    r.close.Safe (storeContract strikes assumes paths update) post (writing file written) tr s := by
  have hunderway : ∀ tr' s', Holds paths directory before file written tr' s' →
      Underway paths directory before file ⟨none, true, written.endsOpen⟩ tr' s' :=
    fun tr' s' hholds => ⟨rfl, .inl rfl, written, hholds⟩
  have hclose : ∀ tr' s', Holds paths directory before file written tr' s' →
      Action.Safe (storeContract strikes assumes paths update)
        ((Action.ask (.closeStaging file)).onSystemError fun e => throw (cannotWrite e)) post
        ⟨none, true, written.endsOpen⟩ tr' s' := by
    intro tr' s' hholds
    refine Action.safe_onSystemError (hholds.safe_ask_leaving (c := .closeStaging file) trivial ?_ ?_)
    · intro w s'' _ hafter
      exact hok _ _ s'' hafter List.getLast?_concat
    · intro failure s'' _ hafter
      have hdisturbed := Trace.disturbed_append_struck tr' (.closeStaging file) failure
      refine Action.orElse_throw (fun _ => ⟨_, rfl⟩) (fun failure => ?_) failure
      exact hfailed failure _ _ s'' (hunderway _ s'' hafter) hdisturbed
  have hgiveUp : ∀ failure tr' s', tr'.Disturbed →
      Holds paths directory before file written tr' s' →
      Action.orElse (storeContract strikes assumes paths update)
        (fun e => do r.closeGivenUp file; throw (cannotWrite e))
        (Action.andThen (storeContract strikes assumes paths update)
          (fun _ : Unit => (Action.ask (.closeStaging file)).onSystemError fun e =>
            throw (cannotWrite e)) post)
        (.error failure) ⟨none, true, written.endsOpen⟩ tr' s' := by
    intro failure tr' s' hdisturbed hafter
    cases failure with
    | system error =>
      refine Action.safe_bind (safe_closeGivenUp hhonest honly hafter ?_)
      intro tr'' s'' hafter hbegins
      exact hfailed _ _ tr'' s'' (hunderway tr'' s'' hafter) (hdisturbed.extended hbegins)
    | _ => exact hfailed _ _ tr' s' (hunderway tr' s' hafter) hdisturbed
  refine Action.safe_get_bind (Action.safe_modify_bind ?_)
  refine Action.safe_bind (Action.safe_onSystemError (Action.safe_bind
    (hholds.safe_ask_leaving (c := .flush file) trivial ?_ ?_)))
  · intro w s' _ hafter
    refine hafter.safe_ask_leaving (c := .sync file) trivial ?_ ?_
    · intro w s'' _ hafter
      exact hclose _ s'' hafter
    · intro failure s'' _ hafter
      exact hgiveUp failure _ s'' (Trace.disturbed_append_struck _ (.sync file) failure) hafter
  · intro failure s' _ hafter
    exact hgiveUp failure _ s' (Trace.disturbed_append_struck _ (.flush file) failure) hafter

end Rewrite

end CredentialStore
