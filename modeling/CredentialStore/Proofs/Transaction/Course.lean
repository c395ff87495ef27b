import CredentialStore.Proofs.Store.Failing
import CredentialStore.Proofs.Store.Fetching
import CredentialStore.Proofs.Transaction.Atomic

namespace CredentialStore

open FileSystem StorePaths

theorem Call.Asks.not_copies {c : Call} (hasks : c.Asks) : ¬c.Copies := by
  cases c <;> first | exact False.elim hasks | exact fun hcopies => hcopies

namespace Action

variable {σ α : Type}

theorem Asks.uses {action : Action σ α} (hasks : action.Asks) : action.Uses Call.Asks := by
  obtain ⟨p, hp, haction⟩ := hasks
  intro state
  rw [haction]
  exact Program.uses_bind hp fun _ => trivial

/-- A run between whose calls nobody does anything ends in the postcondition of a safe action. -/
theorem Safe.of_runs {paths : StorePaths} {update : Option Bytes → Option Bytes} {before : FileSystem}
    {action : Action σ α} {post : Except Failure α → σ → Trace → Scene → Prop} {state state' : σ}
    {tr rest : Trace} {s s' : Scene} {outcome : Except Failure α}
    (hsafe : action.Safe (storeContract .systemErrors (· = before) paths update) post state tr s)
    (hfiles : tr.standing = .outside → s.world.files = before)
    (hruns : action.Runs .systemErrors state s rest outcome state' s') :
    post outcome state' (tr ++ rest) s' ∧
      (storeContract .systemErrors (· = before) paths update).Follows tr.standing s.world.files rest
        s'.world.files :=
  Program.Safe.of_runs (k := storeContract .systemErrors (· = before) paths update)
    (fun _ _ _ hconduct => Conduct.files_eq hconduct) hsafe hfiles hruns

end Action

namespace Holds

variable {paths : StorePaths} {directory : Location} {before : FileSystem} {file : FileId}
  {written : Bytes} {tr rest : Trace} {s s' : Scene}

theorem fileId?_staging (hholds : Holds paths directory before file written tr s) :
    s.world.files.fileId? paths.staging = some file := by
  rw [fileId?_of_locate hholds.held.lead.staging, hholds.held.entry_staging]

theorem contents?_staging (hholds : Holds paths directory before file written tr s) :
    s.world.files.contents? paths.staging = some written := by
  rw [contents?, hholds.fileId?_staging]
  exact congrArg some hholds.data

theorem of_runs (hholds : Holds paths directory before file written tr s)
    {update : Option Bytes → Option Bytes} {σ α : Type} {action : Action σ α}
    {post : Except Failure α → σ → Trace → Scene → Prop} {state state' : σ} {outcome : Except Failure α}
    (hsafe : action.Safe (storeContract .systemErrors (· = before) paths update) post state tr s)
    (hruns : action.Runs .systemErrors state s rest outcome state' s') :
    post outcome state' (tr ++ rest) s' := by
  refine (hsafe.of_runs (fun houtside => ?_) hruns).1
  cases hholds.standing.symm.trans houtside

end Holds

namespace Transaction

open Rewrite

variable {t : Transaction} {secrets : Secrets} {directory : Location} {before : FileSystem}
  {file : FileId} {written : Bytes} {phase : Phase} {state state' : Progress} {s s' : Scene}
  {tr rest : Trace}

/-- What can keep a transaction from its end: a failure that struck, or a store that is not ready. -/
def Impeded (t : Transaction) (before : FileSystem) (tr : Trace) : Prop :=
  tr.Disturbed ∨ ∀ directory, ¬t.settings.paths.Ready directory before

theorem Impeded.extended {tr' : Trace} (himpeded : t.Impeded before tr) (hbegins : tr <+: tr') :
    t.Impeded before tr' :=
  himpeded.imp_left fun hdisturbed => hdisturbed.extended hbegins

theorem impeded_of_hindered (hlead : t.settings.paths.LeadTo before directory)
    (hhindered : Hindered directory before tr) : t.Impeded before tr :=
  hhindered.imp_right (not_ready_of_obstructed hlead)

/-- Why a staging file was not completed: the record is missing or its secret is not known, or a call
    failed that appends the new record or closes the file. -/
def Blames (t : Transaction) (failure : Failure) (tr : Trace) : Prop :=
  failure = .credential (.notFound t.identity t.realm) ∨ failure = .credential .wrongSecret ∨
    tr.Explains finishPoints failure

theorem Blames.extended {failure : Failure} {tr' : Trace} (hblames : t.Blames failure tr)
    (hbegins : tr <+: tr') : t.Blames failure tr' :=
  hblames.imp_right fun hblames => hblames.imp_right fun hexplains => hexplains.extended hbegins

/-- How far a run of a transaction came: its outcome, the phase in which it ended and its calls. -/
inductive Course (t : Transaction) (s : Scene) : Except Failure (Option Record) → Phase → Trace → Prop
  /-- It was not admitted, or not given its secrets. -/
  | refused {failure : Failure} {tr : Trace} (hgranted : t.grantedIn s.session = .error failure)
      (hidle : ∀ e ∈ tr, ¬e.call.Copies) : Course t s (.error failure) .start tr
  /-- It did not acquire the store. -/
  | ungated {failure : Failure} {tr : Trace} (hidle : ∀ e ∈ tr, ¬e.call.Copies)
      (himpeded : t.Impeded s.world.files tr) : Course t s (.error failure) .start tr
  /-- It did not copy the lines of the store that it had acquired. -/
  | unmerged {failure : Failure} {file : FileId} {tr : Trace}
      (hfree : s.world.files.entryAt? t.settings.paths.staging = none)
      (hcreated : ∃ e ∈ tr, e.turn? = some (.holding file))
      (hexplains : tr.Explains mergePoints failure) (himpeded : t.Impeded s.world.files tr) :
      Course t s (.error failure) .gated tr
  /-- It copied the lines and did not complete the staging file. -/
  | unfinished {failure : Failure} {secrets : Secrets} {read work : Trace}
      (hgranted : t.grantedIn s.session = .ok secrets)
      (hread : read.fetched = (t.storeBefore s.world.files).getD []) (hblames : t.Blames failure work)
      (hreason : (read ++ work).Disturbed ∨
        t.resultIn s.session (t.storeBefore s.world.files) = .error failure) :
      Course t s (.error failure) .merged (read ++ work)
  /-- It completed the staging file and did not install it. -/
  | uninstalled {failure : Failure} {record : Option Record} {octets : Bytes} {file : FileId}
      {done rest : Trace}
      (hresult : t.resultIn s.session (t.storeBefore s.world.files) = .ok (record, octets))
      (hclosed : done.Closed file)
      (hfile : (s.after done).world.files.fileId? t.settings.paths.staging = some file)
      (hstaging : (s.after done).world.files.contents? t.settings.paths.staging = some octets)
      (hexplains : rest.Explains Commit.faultPoints failure)
      (himpeded : t.Impeded s.world.files (done ++ rest)) :
      Course t s (.error failure) .validated (done ++ rest)
  | committed {record : Option Record} {octets : Bytes} {tr : Trace}
      (hresult : t.resultIn s.session (t.storeBefore s.world.files) = .ok (record, octets)) :
      Course t s (.ok record) .committed tr

theorem uses_admission : t.admission.Uses Call.Asks := by
  refine Action.uses_bind (Action.uses_ofExcept _) fun _ => Action.uses_bind (Action.uses_ofExcept _) fun _ => ?_
  refine Action.uses_bind ?_ fun _ => t.asks_gatherSecrets.uses
  unfold checkPermission
  split
  · exact Action.uses_bind (Action.uses_ask trivial) fun _ => Action.uses_throw _
  · exact Action.uses_pure _

/-- Before the store is touched, a transaction is begun in the log, and there are prompts and entries. -/
theorem uses_opening {allowed : Call → Prop} (hbegin : allowed .beginTransaction)
    (hasks : ∀ c, Call.Asks c → allowed c) : t.opening.Uses allowed := by
  rw [opening_eq]
  refine Action.uses_bind (Action.uses_ask hbegin) fun _ => Action.uses_bind (Action.uses_modify _) fun _ => ?_
  exact Action.uses_bind (Action.uses_ask (hasks _ trivial)) fun _ => uses_admission.mono hasks

/-- The opening gives what the session grants, and touches no file. -/
theorem of_opening_runs (hsound : s.world.files.Sound) {outcome : Except Failure Secrets}
    (hruns : t.opening.Runs .systemErrors state s tr outcome state' s') :
    outcome = t.grantedIn s.session ∧ state'.phase = .start ∧ tr.standing = .outside ∧
      s'.world.files = s.world.files ∧ ∀ e ∈ tr, ¬e.call.Copies := by
  have houtside : Trace.standing [] = .outside := rfl
  have hsafe : t.opening.Safe (storeContract .systemErrors (· = s.world.files) t.settings.paths id)
      (fun outcome state' (tr' : Trace) _ => outcome = t.grantedIn s.session ∧ state'.phase = .start ∧
        tr'.standing = .outside) state [] s :=
    safe_opening t Strikes.honest_systemErrors houtside fun tr' s' houtside => ⟨rfl, rfl, houtside⟩
  obtain ⟨⟨houtcome, hphase, hstanding⟩, hfollows⟩ := hsafe.of_runs (fun _ => rfl) hruns
  have hreached := Reached.outside.of_follows hsound hfollows
  rw [show tr.foldl Standing.next _ = .outside from hstanding] at hreached
  have huses : t.opening.Uses (¬·.Copies) := uses_opening (fun h => h) fun _ => Call.Asks.not_copies
  exact ⟨houtcome, hphase, hstanding, hreached.eq_of_outside, hruns.calls huses⟩

/-- Acquiring holds the store, unless something impedes it. -/
theorem of_acquire_runs (hsound : before.Sound) (houtside : tr.standing = .outside)
    (hfiles : s.world.files = before) {outcome : Except Failure Unit}
    (hruns : (rewriting t.rewrite.acquire).Runs .systemErrors ⟨phase, {}⟩ s rest outcome state' s') :
    (∃ failure, outcome = .error failure ∧ state'.phase = phase ∧ t.Impeded before (tr ++ rest)) ∨
      ∃ directory file, outcome = .ok () ∧ state' = ⟨phase, writing file []⟩ ∧
        t.settings.paths.LeadTo before directory ∧ before.entry? (stagingAt directory) = none ∧
        Holds t.settings.paths directory before file [] (tr ++ rest) s' := by
  obtain ⟨rewrite, rfl, hacquire⟩ := Action.Runs.of_onPart hruns
  have hsafe : t.rewrite.acquire.Safe (storeContract .systemErrors (· = before) t.settings.paths id)
      (fun outcome rewrite tr' s' => (∃ failure, outcome = .error failure ∧ t.Impeded before tr') ∨
        ∃ directory file, outcome = .ok () ∧ rewrite = writing file [] ∧
          t.settings.paths.LeadTo before directory ∧ before.entry? (stagingAt directory) = none ∧
          Holds t.settings.paths directory before file [] tr' s') {} tr s := by
    refine safe_acquire rfl Strikes.honest_systemErrors Strikes.onlySystem_systemErrors
      (fun fs (hfs : fs = before) => hfs ▸ hsound) houtside ?_ ?_ ?_
    · rintro directory _ file tr' s' rfl hlead hfree hholds
      exact .inr ⟨directory, file, rfl, rfl, hlead, hfree, hholds⟩
    · rintro failure _ tr' s' rfl _ hwhy
      exact .inl ⟨failure, rfl, hwhy⟩
    · intro failure _ tr' s' _ hdisturbed
      exact .inl ⟨failure, rfl, .inl hdisturbed⟩
  obtain ⟨failure, rfl, himpeded⟩ | ⟨directory, file, rfl, rfl, hheld⟩ :=
    (hsafe.of_runs (fun _ => hfiles) hacquire).1
  · exact .inl ⟨failure, rfl, rfl, himpeded⟩
  · exact .inr ⟨directory, file, rfl, rfl, hheld⟩

/-- Copying the lines reads the whole primary file, unless one of the calls that do it fails. -/
theorem of_merge_runs (hholds : Holds t.settings.paths directory before file [] tr s)
    {outcome : Except Failure Summary}
    (hruns : (rewriting t.rewrite.merge).Runs .systemErrors ⟨phase, writing file []⟩ s rest outcome state'
      s') :
    (∃ failure, outcome = .error failure ∧ state'.phase = phase ∧ rest.Explains mergePoints failure ∧
        Underway t.settings.paths directory before file state'.rewrite (tr ++ rest) s' ∧
        Hindered directory before (tr ++ rest)) ∨
      ∃ seen, outcome = .ok seen ∧ state' = ⟨phase, writing file (t.kept (t.storeBefore before))⟩ ∧
        seen.matched = t.found (t.storeBefore before) ∧
        Holds t.settings.paths directory before file (t.kept (t.storeBefore before)) (tr ++ rest) s' ∧
        Trace.fetched (tr ++ rest) = tr.fetched ++ (t.storeBefore before).getD [] := by
  obtain ⟨rewrite, rfl, hmerge⟩ := Action.Runs.of_onPart hruns
  have hsafe : t.rewrite.merge.Safe (storeContract .systemErrors (· = before) t.settings.paths id)
      (fun outcome rewrite tr' s' =>
        (∃ failure, outcome = .error failure ∧
          Underway t.settings.paths directory before file rewrite tr' s' ∧
          Hindered directory before tr') ∨
        ∃ seen, outcome = .ok seen ∧ rewrite = writing file (t.kept (t.storeBefore before)) ∧
          seen.matched = t.found (t.storeBefore before) ∧
          Holds t.settings.paths directory before file (t.kept (t.storeBefore before)) tr' s')
      (writing file []) tr s := by
    refine safe_merge rfl Strikes.honest_systemErrors hholds ?_ ?_
    · intro seen tr' s' hmatched hafter
      exact .inr ⟨seen, rfl, rfl, hmatched, hafter⟩
    · intro failure written tr' s' hafter hhindered
      exact .inl ⟨failure, rfl, underway_writing hafter written, hhindered⟩
  have hread : t.rewrite.merge.Safe (storeContract .systemErrors (· = before) t.settings.paths id) _
      (writing file []) tr s := safe_merge_fetched rfl Strikes.honest_systemErrors hholds
  obtain ⟨failure, rfl, hunderway, hhindered⟩ | ⟨seen, rfl, rfl, hmatched, hafter⟩ :=
    hholds.of_runs hsafe hmerge
  · exact .inl ⟨failure, rfl, rfl, explained_merge.of_runs hmerge, hunderway, hhindered⟩
  · exact .inr ⟨seen, rfl, rfl, hmatched, hafter, hholds.of_runs hread hmerge seen rfl⟩

theorem of_check_runs {α : Type} {checked outcome : Except Failure α}
    (hruns : (check checked).Runs .systemErrors state s tr outcome state' s') :
    tr = [] ∧ outcome = checked := by
  cases checked with
  | ok value =>
    obtain ⟨htr, houtcome, -⟩ := Action.Runs.of_pure hruns
    exact ⟨htr, houtcome⟩
  | error failure =>
    obtain ⟨htr, houtcome, -⟩ := Action.Runs.of_throw hruns
    exact ⟨htr, houtcome⟩

theorem blames_of_checkMatched {matched : Option Record} {failure : Failure}
    (hcheck : t.checkMatched secrets matched = .error failure) : t.Blames failure tr := by
  cases matched with
  | none =>
    rw [checkMatched] at hcheck
    split at hcheck
    · cases hcheck
      exact .inl rfl
    · cases hcheck
  | some record =>
    simp only [checkMatched, Authenticator.verify] at hcheck
    repeat' split at hcheck
    all_goals cases hcheck
    · exact .inr (.inr trivial)
    · exact .inr (.inr trivial)
    · exact .inr (.inr trivial)
    · exact .inr (.inl rfl)

theorem blames_of_newRecord {failure : Failure} (hrecord : t.newRecord secrets = .error failure) :
    t.Blames failure tr := by
  simp only [newRecord] at hrecord
  repeat' split at hrecord
  all_goals cases hrecord
  exact .inr (.inr trivial)

theorem explained_conclude (seen : Summary) (record : Option Record) :
    (t.conclude seen record).Explained finishPoints tr := by
  have hvalidate : ∀ tr', (t.validate record).Explained finishPoints tr' := by
    intro tr'
    refine explained_close.onPart.bind fun _ _ _ => ?_
    exact (Action.explained_modify _).bind fun _ _ _ => Action.explained_pure _
  unfold conclude
  split
  · exact (Action.explained_note _).bind fun _ tr' _ => hvalidate tr'
  · exact hvalidate tr

theorem explained_complete (seen : Summary) (record : Option Record) :
    (t.complete seen record).Explained finishPoints tr := by
  rw [complete_eq]
  cases record with
  | none => exact explained_conclude seen none
  | some record =>
    exact (explained_append record).onPart.bind fun _ tr' _ => explained_conclude seen (some record)

theorem blames_of_finish_runs {seen : Summary} {failure : Failure}
    (hruns : (t.finish secrets seen).Runs .systemErrors state s tr (.error failure) state' s') :
    t.Blames failure tr := by
  have hchecks := Action.Runs.of_modify_bind hruns
  obtain ⟨_, _, _, tr₁, _, rfl, hcheck, hrest⟩ | ⟨_, hfailure, hcheck⟩ := hchecks.of_bind
  · obtain ⟨rfl, -⟩ := of_check_runs hcheck
    obtain ⟨record, _, _, tr₂, _, rfl, hrecord, hcomplete⟩ | ⟨_, hfailure, hrecord⟩ := hrest.of_bind
    · obtain ⟨rfl, -⟩ := of_check_runs hrecord
      exact .inr (.inr ((explained_complete seen record).of_runs hcomplete))
    · cases hfailure
      exact blames_of_newRecord (of_check_runs hrecord).2.symm
  · cases hfailure
    exact blames_of_checkMatched (of_check_runs hcheck).2.symm

/-- The staging file is completed and closed, unless there is no new store or one of the calls that do it
    fails. -/
theorem of_finish_runs {seen : Summary} (hfound : seen.matched = t.found (t.storeBefore before))
    (hholds : Holds t.settings.paths directory before file (t.kept (t.storeBefore before)) tr s)
    {outcome : Except Failure (Option Record)}
    (hruns : (t.finish secrets seen).Runs .systemErrors
      ⟨phase, writing file (t.kept (t.storeBefore before))⟩ s rest outcome state' s') :
    (∃ failure, outcome = .error failure ∧ state'.phase = .merged ∧ t.Blames failure rest ∧
        Underway t.settings.paths directory before file state'.rewrite (tr ++ rest) s' ∧
        (Trace.Disturbed (tr ++ rest) ∨ t.effect secrets (t.storeBefore before) = .error failure)) ∨
      ∃ record octets, outcome = .ok record ∧ state'.phase = .validated ∧
        t.effect secrets (t.storeBefore before) = .ok (record, octets) ∧
        Holds t.settings.paths directory before file octets (tr ++ rest) s' ∧
        Trace.Closed file (tr ++ rest) := by
  have hsafe : (t.finish secrets seen).Safe
      (storeContract .systemErrors (· = before) t.settings.paths id)
      (fun outcome state' (tr' : Trace) s' =>
        (∃ failure, outcome = .error failure ∧ state'.phase = .merged ∧
          Underway t.settings.paths directory before file state'.rewrite tr' s' ∧
          (tr'.Disturbed ∨ t.effect secrets (t.storeBefore before) = .error failure)) ∨
        ∃ record octets, outcome = .ok record ∧ state'.phase = .validated ∧
          t.effect secrets (t.storeBefore before) = .ok (record, octets) ∧
          Holds t.settings.paths directory before file octets tr' s' ∧ tr'.Closed file)
      ⟨phase, writing file (t.kept (t.storeBefore before))⟩ tr s := by
    refine safe_finish Strikes.honest_systemErrors Strikes.onlySystem_systemErrors secrets hfound hholds
      ?_ ?_
    · intro record octets rewrite tr' s' heffect hafter hclosed
      exact .inr ⟨record, octets, rfl, rfl, heffect, hafter, hclosed⟩
    · intro failure rewrite tr' s' hunderway hreason
      exact .inl ⟨failure, rfl, rfl, hunderway, hreason⟩
  obtain ⟨failure, rfl, hphase, hunderway, hreason⟩ | hdone := hholds.of_runs hsafe hruns
  · exact .inl ⟨failure, rfl, hphase, blames_of_finish_runs hruns, hunderway, hreason⟩
  · exact .inr hdone

/-- Giving up the store does not fail. -/
theorem of_discard_runs
    (hunderway : Underway t.settings.paths directory before file state.rewrite tr s)
    {outcome : Except Failure Unit}
    (hruns : (rewriting t.rewrite.discard).Runs .systemErrors state s rest outcome state' s') :
    outcome = .ok () ∧ state'.phase = state.phase := by
  obtain ⟨rewrite, rfl, hdiscard⟩ := Action.Runs.of_onPart hruns
  obtain ⟨-, -, written, hholds⟩ := id hunderway
  have hsafe : t.rewrite.discard.Safe (storeContract .systemErrors (· = before) t.settings.paths id)
      (fun outcome _ _ _ => outcome = .ok ()) state.rewrite tr s :=
    safe_discard rfl Strikes.honest_systemErrors Strikes.onlySystem_systemErrors hunderway
      fun _ _ _ _ _ => rfl
  exact ⟨hholds.of_runs hsafe hdiscard, rfl⟩

/-- A commit that fails was hindered, and one of its calls failed. -/
theorem of_commit_runs (hholds : Holds t.settings.paths directory before file written tr s)
    {outcome : Except Failure Unit}
    (hruns : (Commit.commit t.settings.paths).Runs .systemErrors state s rest outcome state' s') :
    state' = state ∧ ∀ failure, outcome = .error failure →
      rest.Explains Commit.faultPoints failure ∧ Hindered directory before (tr ++ rest) := by
  have hsafe : (Commit.commit t.settings.paths).Safe
      (storeContract .systemErrors (· = before) t.settings.paths fun _ => some written)
      (fun outcome state' tr' _ => state' = state ∧ ∀ failure, outcome = .error failure →
        Hindered directory before tr') state tr s := by
    refine Commit.safe_commit Strikes.honest_systemErrors Strikes.onlySystem_systemErrors hholds rfl
      ?_ ?_
    · intro tr' s' _
      refine ⟨rfl, fun failure hfailed => ?_⟩
      cases hfailed
    · exact fun failure tr' s' _ hhindered => ⟨rfl, fun _ _ => hhindered⟩
  obtain ⟨hstate, hhindered⟩ := hholds.of_runs hsafe hruns
  refine ⟨hstate, fun failure hfailed => ⟨?_, hhindered failure hfailed⟩⟩
  subst hfailed
  exact Commit.explained_commit.of_runs hruns

/-- Where the staging file is prepared, it holds the new store and is closed. -/
theorem of_prepare_ok (hholds : Holds t.settings.paths directory before file [] tr s)
    {record : Option Record}
    (hruns : (t.prepare secrets).Runs .systemErrors ⟨.gated, writing file []⟩ s rest (.ok record) state'
      s') :
    ∃ octets, state'.phase = .validated ∧
      t.effect secrets (t.storeBefore before) = .ok (record, octets) ∧
      Holds t.settings.paths directory before file octets (tr ++ rest) s' ∧
      Trace.Closed file (tr ++ rest) := by
  rw [prepare_eq] at hruns
  obtain ⟨_, _, _, read, work, rfl, hmerge, hfinish⟩ | ⟨_, hfailed, -⟩ := hruns.of_bind
  · obtain ⟨_, hok, -⟩ | ⟨seen, hok, rfl, hmatched, hcopied, -⟩ := of_merge_runs hholds hmerge
    · cases hok
    · cases hok
      rw [← List.append_assoc]
      obtain ⟨_, hok, -⟩ | ⟨_, octets, hok, hdone⟩ := of_finish_runs hmatched hcopied hfinish
      · cases hok
      · cases hok
        exact ⟨octets, hdone⟩
  · cases hfailed

/-- Where the staging file is not prepared, the lines were not copied, or they were and it was not
    completed. -/
theorem of_prepare_error (hholds : Holds t.settings.paths directory before file [] tr s)
    {failure : Failure}
    (hruns : (t.prepare secrets).Runs .systemErrors ⟨.gated, writing file []⟩ s rest (.error failure)
      state' s') :
    Underway t.settings.paths directory before file state'.rewrite (tr ++ rest) s' ∧
      (state'.phase = .gated ∧ rest.Explains mergePoints failure ∧ Hindered directory before (tr ++ rest) ∨
        state'.phase = .merged ∧ ∃ read work, rest = read ++ work ∧
          Trace.fetched (tr ++ read) = tr.fetched ++ (t.storeBefore before).getD [] ∧
          t.Blames failure work ∧ (Trace.Disturbed (tr ++ rest) ∨
            t.effect secrets (t.storeBefore before) = .error failure)) := by
  rw [prepare_eq] at hruns
  obtain ⟨_, _, _, read, work, rfl, hmerge, hfinish⟩ | ⟨_, hfailed, hmerge⟩ := hruns.of_bind
  · obtain ⟨_, hok, -⟩ | ⟨seen, hok, rfl, hmatched, hcopied, hread⟩ := of_merge_runs hholds hmerge
    · cases hok
    · cases hok
      rw [← List.append_assoc]
      obtain ⟨_, herror, hphase, hblames, hunderway, hreason⟩ | ⟨_, _, herror, -⟩ :=
        of_finish_runs hmatched hcopied hfinish
      · cases herror
        exact ⟨hunderway, .inr ⟨hphase, read, work, rfl, hread, hblames, hreason⟩⟩
      · cases herror
  · cases hfailed
    obtain ⟨_, herror, hphase, hexplains, hunderway, hhindered⟩ | ⟨_, herror, -⟩ :=
      of_merge_runs hholds hmerge
    · cases herror
      exact ⟨hunderway, .inl ⟨hphase, hexplains, hhindered⟩⟩
    · cases herror

theorem exists_created (hholds : Holds t.settings.paths directory before file written tr s) :
    ∃ e ∈ tr, e.turn? = some (.holding file) := by
  have hholding : tr.foldl Standing.next .outside = .holding file := hholds.standing
  have hne : tr.foldl Standing.next .outside ≠ .outside := by
    rw [hholding]
    simp
  obtain ⟨e, he, hturn⟩ := Trace.exists_turn?_of_foldl_ne hne
  exact ⟨e, he, hturn.trans (congrArg some hholding)⟩

/-- Installing a staging file that holds the result takes its course. -/
theorem course_of_commit_runs {done : Trace} {record : Option Record}
    (hlead : t.settings.paths.LeadTo s.world.files directory)
    (hresult : t.resultIn s.session (t.storeBefore s.world.files) = .ok (record, written))
    {s₁ : Scene} (hdone : s.after done = s₁)
    (hholds : Holds t.settings.paths directory s.world.files file written done s₁)
    (hclosed : done.Closed file) {outcome : Except Failure (Option Record)}
    (hruns : Action.Runs .systemErrors (do
      rewriting Rewrite.release
      Commit.commit t.settings.paths
      enter .committed
      pure record) state s₁ rest outcome state' s') (hphase : state.phase = .validated) :
    t.Course s outcome state'.phase (done ++ rest) := by
  have hcommit : Action.Runs .systemErrors (do
      Commit.commit t.settings.paths
      enter .committed
      pure record) { state with rewrite := { state.rewrite with owned := false } } s₁ rest outcome state'
      s' := hruns
  obtain ⟨_, state₂, s₂, tr₁, tr₂, rfl, -, hlast⟩ | ⟨failure, rfl, hfailed⟩ := hcommit.of_bind
  · have hentered := Action.Runs.of_modify_bind hlast
    obtain ⟨-, rfl, rfl, -⟩ := Action.Runs.of_pure hentered
    exact .committed hresult
  · obtain ⟨rfl, hwhy⟩ := of_commit_runs hholds hfailed
    obtain ⟨hexplains, hhindered⟩ := hwhy failure rfl
    rw [← hdone] at hholds
    have hcourse : t.Course s (.error failure) .validated (done ++ rest) :=
      .uninstalled hresult hclosed hholds.fileId?_staging hholds.contents?_staging hexplains
        (impeded_of_hindered hlead hhindered)
    rw [← hphase] at hcourse
    exact hcourse

/-- Giving up a staging file that could not be prepared takes its course. -/
theorem course_of_prepare_error {first work clean : Trace} {failure : Failure}
    (hgranted : t.grantedIn s.session = .ok secrets)
    (hlead : t.settings.paths.LeadTo s.world.files directory)
    (hfree : s.world.files.entry? (stagingAt directory) = none) (hwas : first.fetched = [])
    (hcreated : ∃ e ∈ first, e.turn? = some (.holding file))
    (hwhy : phase = .gated ∧ work.Explains mergePoints failure ∧
        Hindered directory s.world.files (first ++ work) ∨
      phase = .merged ∧ ∃ read rest, work = read ++ rest ∧
        Trace.fetched (first ++ read) = first.fetched ++ (t.storeBefore s.world.files).getD [] ∧
        t.Blames failure rest ∧ (Trace.Disturbed (first ++ work) ∨
          t.resultIn s.session (t.storeBefore s.world.files) = .error failure)) :
    t.Course s (.error failure) phase (first ++ (work ++ clean)) := by
  obtain ⟨rfl, hexplains, hhindered⟩ | ⟨rfl, read, rest, rfl, hread, hblames, hreason⟩ := hwhy
  · obtain ⟨e, he, hturn⟩ := hcreated
    have himpeded := impeded_of_hindered hlead hhindered
    rw [← List.append_assoc]
    refine .unmerged ((entryAt?_of_locate hlead.staging).trans hfree) ⟨e, by simp [he], hturn⟩ ?_ ?_
    · exact hexplains.mono fun e he => by simp [he]
    · exact himpeded.extended (List.prefix_append _ _)
  · rw [hwas, List.nil_append] at hread
    rw [List.append_assoc, ← List.append_assoc]
    refine .unfinished hgranted hread (hblames.extended (List.prefix_append _ _)) ?_
    refine hreason.imp_left fun hdisturbed => hdisturbed.extended ?_
    rw [← List.append_assoc, ← List.append_assoc]
    exact List.prefix_append _ _

/-- What is done with the secrets takes its course. -/
theorem course_of_apply_runs {s₁ : Scene} {first : Trace} (hsound : s.world.files.Sound)
    (hgranted : t.grantedIn s.session = .ok secrets) (houtside : first.standing = .outside)
    (hidle : ∀ e ∈ first, ¬e.call.Copies) (hfirst : s.after first = s₁)
    (hfiles : s₁.world.files = s.world.files) {rewrite : Rewrite.State}
    {outcome : Except Failure (Option Record)}
    (hruns : (t.apply secrets).Runs .systemErrors ⟨.start, rewrite⟩ s₁ rest outcome state' s') :
    t.Course s outcome state'.phase (first ++ rest) := by
  have hresult : ∀ contents, t.resultIn s.session contents = t.effect secrets contents := by
    intro contents
    rw [resultIn_eq_bind, hgranted]
    rfl
  have hidleAcquired : ∀ {outcome tr state' s'},
      (rewriting t.rewrite.acquire).Runs .systemErrors ⟨.start, {}⟩ s₁ tr outcome state' s' →
      ∀ e ∈ first ++ tr, ¬e.call.Copies := by
    intro outcome tr state' s' hacquire e he
    rcases List.mem_append.1 he with he | he
    · exact hidle e he
    · exact not_copies_of_gates (hacquire.calls (Action.uses_onPart uses_acquire) e he)
  obtain ⟨_, _, s₂, tr₂, rest, rfl, hacquire, hheld⟩ | ⟨failure, rfl, hacquire⟩ :=
    (Action.Runs.of_modify_bind hruns).of_bind
  · obtain ⟨_, hok, -⟩ | ⟨directory, file, -, rfl, hlead, hfree, hholds⟩ :=
      of_acquire_runs hsound houtside hfiles hacquire
    · cases hok
    · have hwas : Trace.fetched (first ++ tr₂) = [] := Trace.fetched_of_idle (hidleAcquired hacquire)
      obtain ⟨record, _, s₃, tr₃, rest, rfl, hprepare, hready⟩ | ⟨failure, rfl, hprepare⟩ :=
        (Action.Runs.of_modify_bind hheld).of_bind
      · obtain ⟨value, hvalue, hprepared⟩ | ⟨_, _, _, _, _, -, -, ⟨hfailed, -⟩ | ⟨_, hfailed, -⟩⟩ :=
          hprepare.of_orCleanUp
        · cases hvalue
          obtain ⟨octets, hphase, heffect, hholds', hclosed⟩ := of_prepare_ok hholds hprepared
          have hdone : s.after (first ++ tr₂ ++ tr₃) = s₃ := by
            rw [Scene.after_append, Scene.after_append, hfirst, hacquire.after_eq, hprepare.after_eq]
          rw [← List.append_assoc, ← List.append_assoc]
          exact course_of_commit_runs hlead ((hresult _).trans heffect) hdone hholds' hclosed hready hphase
        · cases hfailed
        · cases hfailed
      · obtain ⟨_, hok, -⟩ | ⟨reason, state₃, s₃, tr₃, tr₄, rfl, hprepared, hclean⟩ :=
          hprepare.of_orCleanUp
        · cases hok
        · obtain ⟨hunderway, hwhy⟩ := of_prepare_error hholds hprepared
          obtain ⟨hfailed, hcleaned⟩ | ⟨_, -, hcleaned⟩ := hclean
          · cases hfailed
            obtain ⟨-, hphase⟩ := of_discard_runs hunderway hcleaned
            rw [hphase, ← List.append_assoc]
            refine course_of_prepare_error hgranted hlead hfree hwas (exists_created hholds) ?_
            rw [hresult]
            exact hwhy
          · cases (of_discard_runs hunderway hcleaned).1
  · obtain ⟨_, -, hphase, himpeded⟩ | ⟨_, _, hok, -⟩ := of_acquire_runs hsound houtside hfiles hacquire
    · rw [hphase]
      exact .ungated (hidleAcquired hacquire) himpeded
    · cases hok

/-- A run of a transaction takes its course. -/
theorem course_of_runs (t : Transaction) (hsound : s.world.files.Sound)
    {outcome : Except Failure (Option Record)}
    (hruns : t.run.Runs .systemErrors state s tr outcome state' s') :
    t.Course s outcome state'.phase tr := by
  rw [run_eq] at hruns
  obtain ⟨secrets, ⟨phase, rewrite⟩, s₁, tr₁, tr₂, rfl, hopening, happly⟩ | ⟨failure, rfl, hopening⟩ :=
    hruns.of_bind
  · obtain ⟨hgranted, rfl, houtside, hfiles, hidle⟩ := of_opening_runs hsound hopening
    exact course_of_apply_runs hsound hgranted.symm houtside hidle hopening.after_eq hfiles happly
  · obtain ⟨hgranted, hphase, -, -, hidle⟩ := of_opening_runs hsound hopening
    rw [hphase]
    exact .refused hgranted.symm hidle

/-- The report of an outcome that a run had in a phase; a failure that is no error of the store passes. -/
def reportOf (t : Transaction) (phase : Phase) :
    Except Failure (Option Record) → Except Failure Report
  | .ok record => .ok
      { outcome := .committed, operation := t.operation, identity := t.identity, realm := t.realm
        phase, record }
  | .error (.credential error) => .ok (t.aborted phase error)
  | .error failure => .error failure

/-- The last entry of the log of an execution, by how the transaction ended. -/
def closing (t : Transaction) (phase : Phase) :
    Except Failure (Option Record) → List Log.AuditEvent
  | .ok _ => [.committed t.operation.name t.identity t.realm]
  | .error (.credential error) =>
    [.aborted t.operation.name t.identity t.realm error.code phase.name error.message]
  | .error _ => []

/-- An execution runs the transaction, notes how it ended and reports that. -/
theorem of_execute {strikes : Strikes} (honly : strikes.OnFiles) {outcome : Except Failure Report}
    (hruns : t.execute.Runs strikes state s tr outcome state' s') :
    ∃ result middle s₁ first, t.run.Runs strikes state s first result middle s₁ ∧
      outcome = t.reportOf middle.phase result ∧
      tr = first ++ (t.closing middle.phase result).map fun event => ⟨.log (.audit event), .ok (), false⟩ := by
  obtain ⟨result, middle, s₁, first, last, rfl, hattempt, hrest⟩ | ⟨_, -, hattempt⟩ := hruns.of_bind
  · obtain ⟨_, hresult, hrun⟩ := Action.Runs.of_attempt hattempt
    cases hresult
    refine ⟨result, middle, s₁, first, hrun, ?_⟩
    rcases result with failure | record
    · cases failure with
      | credential error =>
        have hnoting := Action.Runs.of_modify_bind (Action.Runs.of_get_bind hrest)
        obtain ⟨_, _, _, noted, _, rfl, hnote, hlast⟩ | ⟨_, -, hnote⟩ := hnoting.of_bind
        · obtain ⟨-, -, rfl⟩ := Action.Runs.of_note honly hnote
          obtain ⟨rfl, rfl, -⟩ := Action.Runs.of_pure hlast
          exact ⟨rfl, rfl⟩
        · cases (Action.Runs.of_note honly hnote).1
      | _ =>
        obtain ⟨rfl, rfl, -⟩ := Action.Runs.of_throw hrest
        exact ⟨rfl, rfl⟩
    · obtain ⟨_, _, _, noted, _, rfl, hnote, hlast⟩ | ⟨_, -, hnote⟩ := Action.Runs.of_bind hrest
      · obtain ⟨-, rfl, rfl⟩ := Action.Runs.of_note honly hnote
        have hreported := Action.Runs.of_get_bind hlast
        obtain ⟨rfl, rfl, -⟩ := Action.Runs.of_pure hreported
        exact ⟨rfl, rfl⟩
      · cases (Action.Runs.of_note honly hnote).1
  · obtain ⟨_, hresult, -⟩ := Action.Runs.of_attempt hattempt
    cases hresult

end Transaction

end CredentialStore
