import CredentialStore.Proofs.Run.Planned
import CredentialStore.Proofs.Run.Steps
import CredentialStore.Proofs.Transaction.History
import CredentialStore.Proofs.Transaction.Stages

namespace CredentialStore

open CredentialStore.Action FileSystem StorePaths

/-- Whether somebody cleans up behind a call, after other calls. Nobody does where the staging file is only
    being created and made ready, or is already being given up. -/
def Call.Guarded (before : Trace) : Call → Prop
  | createStaging _ _ | openStream _ | abandonStream _ | unlinkStaging _ => False
  | closeStaging _ => before.Synced
  | _ => True

namespace Trace

variable {bare : Call → Prop} {made : Failure → Prop} {before after : Trace} {e : Event}
  {failure known : Failure}

/-- Where a failure that is no error of the file system struck one call alone, the calls lead to it, and
    nothing but clean-up follows. -/
theorem LeadsTo.of_struck (hleads : LeadsTo bare made (before ++ e :: after) known) (hfails : e.Fails failure)
    (hother : ∀ cause, failure ≠ .system cause) (hbefore : before.Calm) (hafter : after.Calm)
    (hbare : ∀ e' ∈ before ++ e :: after, e'.struck = false → e'.call.Bare → ∃ reply, e'.answer = .ok reply) :
    known = failure ∧ after.Cleaning := by
  have hsmooth : ∀ {first : Trace}, first.Smooth → e ∉ first := by
    intro first hsmooth he
    obtain ⟨cause, hcause, -⟩ := hsmooth e he failure hfails
    exact hother cause hcause
  have hcleaning : ∀ {first : Trace}, ¬Cleaning (first ++ e :: after) := by
    intro first hcleaning
    obtain ⟨cause, hcause, -⟩ := hcleaning.excused hfails
    exact hother cause hcause
  generalize htr : before ++ e :: after = tr at hleads
  cases hleads with
  | made hfirst hrest _ =>
    obtain ⟨middle, rfl, -⟩ | ⟨middle, -, rfl⟩ := before_or_behind htr
    · exact absurd (by simp) (hsmooth hfirst)
    · exact absurd hrest hcleaning
  | told hfirst hfails' hrest htells _ =>
    obtain ⟨middle, rfl, -⟩ | ⟨middle, -, hmiddle⟩ := before_or_behind htr
    · exact absurd (by simp) (hsmooth hfirst)
    · cases middle with
      | nil =>
        obtain ⟨rfl, rfl⟩ := List.cons.inj hmiddle
        obtain rfl := hfails.unique hfails'
        exact ⟨htells.eq_of_other hother, hrest⟩
      | cons _ middle =>
        obtain ⟨-, rfl⟩ := List.cons.inj hmiddle
        exact absurd hrest hcleaning
  | @overruled first rest e' failure' _ hbroken hrest htells =>
    obtain ⟨-, hfails', hwhy⟩ := hbroken
    obtain ⟨middle, rfl, rfl⟩ | ⟨middle, rfl, hmiddle⟩ := before_or_behind htr
    · obtain ⟨hstrikes, -⟩ | hunmet := hwhy
      · cases hstrikes.symm.trans (hafter e' (by simp))
      · obtain ⟨reply, hanswer⟩ := hbare e' (by simp) (hafter e' (by simp)) hunmet
        cases hanswer.symm.trans hfails'.2
    · cases middle with
      | nil =>
        obtain ⟨rfl, rfl⟩ := List.cons.inj hmiddle
        obtain rfl := hfails.unique hfails'
        exact ⟨htells.eq_of_other hother, hrest⟩
      | cons _ middle =>
        obtain ⟨-, rfl⟩ := List.cons.inj hmiddle
        exact absurd hrest hcleaning

end Trace

namespace Reached

variable {paths : StorePaths} {update : Option Bytes → Option Bytes} {before fs : FileSystem}

/-- Whoever holds the store can remove the staging file. -/
theorem unlinked {file : FileId} (hreached : Reached paths update before (.holding file) fs) :
    ∃ fs', fs.unlink paths.staging = .ok fs' ∧ Reached paths update before .removed fs' := by
  cases hreached with
  | @holding directory _ _ hlead hfree hentry hsound hchanged =>
    have hnow := hlead.of_changedOnly hchanged
    have hunbound := changedOnly_unbind (stagingAt_ne_nil directory) hentry
    refine ⟨fs.unbind (stagingAt directory), ?_, .removed hlead hfree ?_ ?_ ?_⟩
    · rw [unlink_of_locate hnow.staging, hentry]
    · rw [entry?_unbind fs (stagingAt_ne_nil directory), if_pos rfl]
    · exact hsound.unbind (stagingAt_ne_nil directory) (by simp [hentry])
    · exact hchanged.trans (hunbound.mono (by simp))

theorem unlink_error (hreached : Reached paths update before .removed fs) :
    fs.unlink paths.staging = .error (.numbered .notFound) := by
  cases hreached with
  | removed hlead _ hentry _ hchanged =>
    rw [unlink_of_locate (hlead.of_changedOnly hchanged).staging, hentry]

/-- Once the staging file is removed, anybody can create it anew. -/
theorem exists_create (hreached : Reached paths update before .removed fs) (mode : Nat) :
    ∃ created, fs.create paths.staging mode = .ok created := by
  cases hreached with
  | removed hlead _ hentry _ hchanged =>
    have hlocate := (hlead.of_changedOnly hchanged).staging
    exact ⟨_, by simp only [create, hlocate, Bind.bind, Except.bind, hentry]; rfl⟩

/-- Clean-up that no failure strikes leaves the store held or removes the staging file, and it removes it
    if it makes the call for that. -/
theorem of_cleaning {strikes : Strikes} {s s' : Scene} {tr : Trace} {st : Standing}
    (hreached : Reached paths update before st s.world.files)
    (hst : (∃ file, st = .holding file) ∨ st = .removed) (hsteps : s.Steps strikes tr s') (hcalm : tr.Calm)
    (hcleans : ∀ e ∈ tr, e.call.CleansUp)
    (hpath : ∀ e ∈ tr, ∀ path, e.call = .unlinkStaging path → path = paths.staging)
    (hremoves : st = .removed ∨ ∃ e ∈ tr, ∃ path, e.call = .unlinkStaging path) :
    Reached paths update before .removed s'.world.files := by
  induction hsteps generalizing st with
  | nil s =>
    obtain rfl | ⟨_, he, -⟩ := hremoves
    · exact hreached
    · cases he
  | @cons s₀ s₁ _ e rest hanswer hrest ih =>
    obtain ⟨c, answer, struck⟩ := e
    have hgo : ∀ {st'}, Reached paths update before st' s₁.world.files →
        ((∃ file, st' = .holding file) ∨ st' = .removed) →
        (st' = .removed ∨ ∃ e ∈ rest, ∃ path, e.call = .unlinkStaging path) →
        Reached paths update before .removed _ := fun hreached' hst' hremoves' =>
      ih hreached' hst' (fun e he => hcalm e (by simp [he])) (fun e he => hcleans e (by simp [he]))
        (fun e he => hpath e (by simp [he])) hremoves'
    obtain ⟨-, hperformed, rfl⟩ | ⟨_, hstruck, -⟩ := hanswer.performed_or_struck
    · by_cases hunlink : ∃ path, c = .unlinkStaging path
      · obtain ⟨path, rfl⟩ := hunlink
        obtain rfl := hpath _ List.mem_cons_self path rfl
        obtain ⟨file, rfl⟩ | rfl := hst
        · obtain ⟨fs', hunlinked, hremoved⟩ := hreached.unlinked
          have hperform : (s₀.perform (.unlinkStaging paths.staging)).2.world.files = fs' := by
            simp only [Scene.perform, World.answer, World.changing, hunlinked]
          exact hgo (hperform ▸ hremoved) (.inr rfl) (.inl rfl)
        · have hperform : (s₀.perform (.unlinkStaging paths.staging)).2.world.files = s₀.world.files := by
            simp only [Scene.perform, World.answer, World.changing, hreached.unlink_error]
          exact hgo (hperform ▸ hreached) (.inr rfl) (.inl rfl)
      · have hleaves : c.LeavesFiles := by
          have hclean := hcleans _ List.mem_cons_self
          cases c <;> first | exact False.elim hclean | exact absurd ⟨_, rfl⟩ hunlink | trivial
        have hperform : (s₀.perform c).2.world.files = s₀.world.files := by
          rw [hleaves.perform_eq]
          exact hleaves.files_answer s₀.world
        refine hgo (hperform ▸ hreached) hst (hremoves.imp_right ?_)
        rintro ⟨e, he, path, hcall⟩
        rcases List.mem_cons.1 he with rfl | he
        · exact absurd ⟨path, hcall⟩ hunlink
        · exact ⟨e, he, path, hcall⟩
    · cases hstruck.symm.trans (hcalm _ List.mem_cons_self)

end Reached

namespace Action

variable {σ : Type} {strikes : Strikes} {state state' : σ} {s s' : Scene} {tr : Trace}

/-- A call whose errors are met is made. -/
theorem Runs.makes_onSystemError {c : Call} {handler : SystemError → Action σ c.Reply}
    {outcome : Except Failure c.Reply}
    (hruns : ((ask c).onSystemError handler).Runs strikes state s tr outcome state' s') :
    ∃ e ∈ tr, e.call = c := by
  obtain ⟨_, -, hask⟩ | ⟨_, -, -, hask⟩ | ⟨_, _, _, _, _, rfl, hask, -⟩ := Runs.of_onSystemError hruns
  · obtain ⟨-, _, rfl, -⟩ := Runs.of_ask hask
    exact ⟨_, List.mem_singleton_self _, rfl⟩
  · obtain ⟨-, _, rfl, -⟩ := Runs.of_ask hask
    exact ⟨_, List.mem_singleton_self _, rfl⟩
  · obtain ⟨-, _, rfl, -⟩ := Runs.of_ask hask
    exact ⟨_, List.mem_append_left _ (List.mem_singleton_self _), rfl⟩

end Action

namespace Rewrite

variable {r : Rewrite} {state state' : State} {s s' : Scene} {tr : Trace}

theorem unlinks_of_removeOwned {outcome : Except Failure Unit} (howned : state.owned = true)
    (hruns : r.removeOwned.Runs .foreign state s tr outcome state' s') :
    ∃ e ∈ tr, e.call = .unlinkStaging r.staging := by
  have hgot := Runs.of_get_bind hruns
  rw [if_pos howned] at hgot
  exact (Runs.of_modify_bind hgot).makes_onSystemError

/-- Giving up a staging file that a rewrite owns makes the call that removes it, unless a failure strikes
    before. -/
theorem unlinks_of_discard {outcome : Except Failure Unit} (howned : state.owned = true)
    (hruns : r.discard.Runs .foreign state s tr outcome state' s') (hcalm : tr.Calm) :
    ∃ e ∈ tr, e.call = .unlinkStaging r.staging := by
  obtain ⟨stream, owned, needsNewline⟩ := state
  rw [discard_eq] at hruns
  have hgot := Runs.of_get_bind hruns
  cases stream with
  | none => exact unlinks_of_removeOwned howned hgot
  | some file =>
    obtain ⟨_, _, s₁, first, rest, rfl, hclose, hrest⟩ | ⟨failure, rfl, hclose⟩ :=
      (Runs.of_modify_bind hgot).of_bind
    · obtain rfl := state_of_closeGivenUp hclose
      have hstill : State.owned ⟨none, owned, needsNewline⟩ = true := howned
      obtain ⟨e, he, hcall⟩ := unlinks_of_removeOwned hstill hrest
      exact ⟨e, List.mem_append_right _ he, hcall⟩
    · obtain ⟨-, ⟨⟨_, hok⟩, -⟩ | ⟨_, first, e, -, rfl, hbroken⟩⟩ := cleans_closeGivenUp file hclose
      · cases hok
      · obtain ⟨-, -, ⟨hstruck, -⟩ | hbare⟩ := hbroken
        · cases hstruck.symm.trans (hcalm e (by simp))
        · have huses : (r.closeGivenUp file).Uses (¬·.Bare) := uses_closeGivenUp (fun h => h) (fun h => h)
          exact absurd hbare (hclose.calls huses e (by simp))

end Rewrite

namespace Transaction

open Rewrite

variable {t : Transaction} {secrets : Secrets} {state state' : Progress} {s s' : Scene} {tr : Trace}
  {e : Event} {failure : Failure}

theorem closes_of_gates {before : Trace} {r : Rewrite} (hgates : r.Gates e.call) (hfails : e.Fails failure)
    (hguarded : e.call.Guarded before) : ∃ file, e.call = .closeStaging file ∧ before.Synced := by
  have hpoint := hfails.1
  cases hcall : e.call <;> rw [hcall] at hgates hguarded hpoint
  case closeStaging file => exact ⟨file, rfl, hguarded⟩
  case log => cases hpoint
  all_goals first | exact False.elim hgates | exact False.elim hguarded

/-- Where a failure strikes a call that is guarded, the staging file is given up. -/
theorem Stages.unlinks {before after : Trace} (hgathered : t.Gathered secrets)
    (hstages : t.Stages secrets state s (before ++ e :: after) (.error failure) state' s')
    (hfails : e.Fails failure) (hother : ∀ cause, failure ≠ .system cause)
    (hguarded : e.call.Guarded before) (hcalm : after.Calm) :
    ∃ e' ∈ after, e'.call = .unlinkStaging t.settings.paths.staging := by
  have hgate : ∀ {state state' s s'} {gate middle : Trace} {outcome : Except Failure Unit},
      t.rewrite.acquire.Runs .foreign state s gate outcome state' s' → gate ≠ before ++ e :: middle := by
    rintro state state' s s' _ middle outcome hacquire rfl
    obtain ⟨_, -, hsynced⟩ := closes_of_gates (hacquire.calls uses_acquire e (by simp)) hfails hguarded
    exact not_synced_of_acquire hacquire (Trace.synced_append.2 (.inl hsynced))
  have hwork : ∀ {state : Progress} {file : FileId}, state.rewrite.Open file →
      (t.prepare secrets).Tells (fun _ => True) t.Makes (fun _ state' => state'.rewrite.owned = true) state :=
    fun hopen => tells_prepare hgathered hopen
  generalize htr : before ++ e :: after = tr at hstages
  generalize houtcome : (Except.error failure : Except Failure (Option Record)) = outcome at hstages
  cases hstages with
  | ungated hacquire => exact absurd htr.symm (hgate hacquire)
  | @unprepared _ _ _ _ _ _ _ gate work clean _ hacquire hprepare hdiscard =>
    obtain ⟨middle, rfl, -⟩ | ⟨middle, rfl, hmiddle⟩ := Trace.before_or_behind htr
    · exact absurd rfl (hgate hacquire)
    · obtain ⟨-, file, hopen⟩ := open_of_acquire hacquire
      obtain ⟨howned, -⟩ := hwork hopen hprepare
      obtain ⟨inside, rfl, rfl⟩ | ⟨inside, rfl, rfl⟩ := Trace.before_or_behind hmiddle.symm
      · obtain ⟨e', he', hcall⟩ := unlinks_of_discard howned hdiscard fun e he => hcalm e (by simp [he])
        exact ⟨e', List.mem_append_right _ he', hcall⟩
      · have hgives := hdiscard.calls uses_discard
        obtain ⟨file, hclose, hsynced⟩ := closes_of_gates (.of_givesUp (hgives e (by simp))) hfails hguarded
        have hwork : work.Synced := by
          obtain hsynced | hsynced := Trace.synced_append.1 hsynced
          · exact absurd hsynced (not_synced_of_acquire hacquire)
          · refine (Trace.synced_append.1 hsynced).resolve_right (Trace.not_synced_of_calls fun e he => ?_)
            exact not_syncs_of_gates (.of_givesUp (hgives e (by simp [he])))
        have hclosed := (settles_prepare hprepare).2 hwork
        exact absurd hclose ((unnoted_of_discard hclosed hdiscard).2 e (by simp) file)
  | @uncommitted _ _ _ _ _ _ _ gate work last _ hacquire hprepare hcommit =>
    cases houtcome
    obtain ⟨middle, rfl, -⟩ | ⟨middle, rfl, hmiddle⟩ := Trace.before_or_behind htr
    · exact absurd rfl (hgate hacquire)
    · obtain ⟨-, file, hopen⟩ := open_of_acquire hacquire
      have hsmooth : work.Smooth := (hwork hopen hprepare).2
      obtain ⟨inside, rfl, rfl⟩ | ⟨inside, rfl, hlast⟩ := Trace.before_or_behind hmiddle.symm
      · obtain ⟨cause, hcause, -⟩ := hsmooth e (by simp) failure hfails
        exact absurd hcause (hother cause)
      · obtain ⟨_, _, _, hok, -⟩ | ⟨reason, result, _, _, first, rest, -, rfl, hsteps, hdiscard⟩ :=
          Commit.of_commit hcommit
        · cases hok
        · obtain ⟨_, rfl, rfl⟩ | ⟨_, rfl, rfl⟩ := Trace.before_or_behind hlast.symm
          · obtain ⟨e', he', hcall⟩ := hdiscard.makes_onSystemError
            exact ⟨e', List.mem_append_right _ he', hcall⟩
          · have hremoves := hdiscard.calls (Commit.uses_discard _) e (by simp)
            have hpoint := hfails.1
            cases hcall : e.call <;> rw [hcall] at hremoves hguarded hpoint
            case log => cases hpoint
            all_goals first | exact False.elim hremoves | exact False.elim hguarded
  | committed => cases houtcome

theorem reportOf_passed (t : Transaction) (phase : Phase) (hpassed : ∀ error, failure ≠ .credential error) :
    t.reportOf phase (.error failure) = .error failure ∧ t.closing phase (.error failure) = [] := by
  cases failure with
  | credential error => exact absurd rfl (hpassed error)
  | _ => exact ⟨rfl, rfl⟩

/-- What the events of an execution tell where a failure struck a guarded call alone: the failure passes, and
    what follows is clean-up that removes the staging file. -/
theorem cleans_up_of_struck {outcome : Except Failure Report} {before after : Trace}
    (hruns : t.execute.Runs .foreign state s (before ++ e :: after) outcome state' s')
    (hfails : e.Fails failure) (hother : ∀ cause, failure ≠ .system cause)
    (hpassed : ∀ error, failure ≠ .credential error) (hbefore : before.Calm) (hafter : after.Calm)
    (hguarded : e.call.Guarded before) :
    outcome = .error failure ∧ after.Cleaning ∧
      (∀ e' ∈ after, ∀ path, e'.call = .unlinkStaging path → path = t.settings.paths.staging) ∧
      ∃ e' ∈ after, e'.call = .unlinkStaging t.settings.paths.staging := by
  have hidle : ∀ {first : Trace}, (∀ e' ∈ first, e'.call.faultPoint? = none) → e ∉ first := by
    intro first hidle he
    cases (hidle e he).symm.trans (Option.eq_some_of_isSome hfails.1)
  obtain ⟨result, middle, s₁, tr, hrun, rfl, htr⟩ := of_execute Strikes.onFiles_foreign hruns
  obtain ⟨inside, rfl, rfl⟩ | ⟨_, -, hclosing⟩ := Trace.before_or_behind htr
  · obtain ⟨_, -, -, -, hrefused⟩ | ⟨secrets, _, _, first, rest, hsplit, -, hgathered, hopening, happly⟩ :=
      of_run hrun
    · exact absurd (by simp) (hidle (granted_of_opening hrefused).2.2)
    · obtain ⟨_, rfl, -⟩ | ⟨begun, rfl, rfl⟩ := Trace.before_or_behind hsplit
      · exact absurd (by simp) (hidle (granted_of_opening hopening).2.2)
      · have hbegun : Trace.Calm begun := fun e he => hbefore e (by simp [he])
        have hinside : Trace.Calm inside := fun e he => hafter e (by simp [he])
        have hleads : ∃ known, result = .error known ∧
            Trace.LeadsTo (fun _ => True) t.Makes (begun ++ e :: inside) known := by
          cases result with
          | ok record =>
            obtain ⟨cause, hcause, -⟩ := smooth_of_apply hgathered happly e (by simp) failure hfails
            exact absurd hcause (hother cause)
          | error known => exact ⟨known, rfl, leadsTo_of_apply _ hgathered happly⟩
        obtain ⟨known, rfl, hleads⟩ := hleads
        obtain ⟨rfl, hcleaning⟩ := hleads.of_struck hfails hother hbegun hinside
          fun e' he' => happly.steps.ok_of_bare he'
        obtain ⟨hreport, hclosing⟩ := t.reportOf_passed middle.phase hpassed
        have hguarded : e.call.Guarded begun := by
          cases hcall : e.call <;> rw [hcall] at hguarded <;> try exact hguarded
          refine (Trace.synced_append.1 hguarded).resolve_left (Trace.not_synced_of_calls fun e he hsyncs => ?_)
          cases hsyncs.faultPoint?_eq.symm.trans ((granted_of_opening hopening).2.2 e he)
        rw [hclosing, List.map_nil, List.append_nil]
        refine ⟨hreport, hcleaning, fun e' he' path hcall => ?_, ?_⟩
        · have hserves := happly.calls uses_apply e' (by simp [he'])
          rwa [hcall] at hserves
        · exact (stages_of_apply happly).unlinks hgathered hfails hother hguarded hinside
  · obtain ⟨_, -, hcall⟩ := List.mem_map.1 (hclosing ▸ List.mem_append_right _ List.mem_cons_self)
    cases hcall ▸ hfails.1

/-- A failure that is neither an error of the file system nor one of the store passes through an execution.
    Where it strikes a guarded call of a transaction that holds the store, and no other call is struck, the
    staging file is gone afterwards, so that the next transaction can create it, and the primary file is as it
    was. -/
theorem released_when_passed (t : Transaction) {before after : Trace} {file : FileId}
    {outcome : Except Failure Report} (hsound : s.world.files.Sound)
    (hruns : t.execute.Runs .foreign state s (before ++ e :: after) outcome state' s')
    (hstruck : e.struck = true) (hanswer : e.answer = .error failure)
    (hother : ∀ cause, failure ≠ .system cause) (hbefore : before.Calm) (hafter : after.Calm)
    (hheld : before.standing = .holding file) (hguarded : e.call.Guarded before) :
    outcome = .error failure ∧
      s'.world.files.entryAt? t.settings.paths.staging = none ∧
      (∀ mode, ∃ created, s'.world.files.create t.settings.paths.staging mode = .ok created) ∧
      s'.world.files.contents? t.settings.paths.primary = s.world.files.contents? t.settings.paths.primary ∧
      s'.world.files.entryAt? t.settings.paths.primary = s.world.files.entryAt? t.settings.paths.primary := by
  have hsafe : t.execute.Safe (storeContract .systemErrors (· = s.world.files) t.settings.paths
      (t.updateIn s.session)) _ state [] s := safe_execute t Strikes.honest_systemErrors
    Strikes.onlySystem_systemErrors (fun _ hfs => hfs ▸ hsound) rfl rfl
  obtain ⟨middle, hfirst, hlast, hfollows⟩ := Program.Safe.follows_of_calm
    (k := storeContract .systemErrors (· = s.world.files) t.settings.paths (t.updateIn s.session))
    (fun _ _ _ => Conduct.files_eq) hsafe (fun _ => rfl) hruns hbefore
  have hreached := Reached.outside.of_follows hsound hfollows
  rw [show before.foldl Standing.next _ = .holding file from hheld] at hreached
  obtain ⟨middle', hanswers, hrest⟩ := hlast.of_cons
  obtain ⟨hcalm, -, -⟩ | ⟨_, -, hfailed, hstrikes, rfl⟩ := hanswers.performed_or_struck
  · cases hstruck.symm.trans hcalm
  · cases hanswer.symm.trans hfailed
    obtain ⟨rfl, hcleaning, hpath, e', he', hcall⟩ := cleans_up_of_struck hruns ⟨hstrikes.1, hanswer⟩ hother
      hstrikes.2 hbefore hafter hguarded
    have hremoved := hreached.of_cleaning (.inl ⟨file, rfl⟩) hrest hafter (fun e he => hcleaning.cleansUp he)
      hpath (.inr ⟨e', he', _, hcall⟩)
    exact ⟨rfl, hremoved.staging_eq_none, hremoved.exists_create, hremoved.primary_eq hsound (by simp)⟩

/-- A store of one record whose staging file the user interrupts when it is synced. -/
def interruptedScene : Scene :=
  { sampleScene with session.faults := [(.sync, { failure := .interrupted })] }

theorem admits_interrupted {point : FaultPoint} :
    Strikes.foreign.Admits [(point, { failure := .interrupted })] :=
  Strikes.admits_singleton fun _ _ hpoint => ⟨by rw [hpoint]; rfl, fun _ h => by cases h⟩

/-- The removal is interrupted when it syncs the staging file, and the store is released. -/
theorem sampleRemoval_released : ∃ (before after : Trace) (e : Event) (progress : Progress) (s' : Scene),
    sampleRemoval.execute.Runs .foreign {} interruptedScene.faultless (before ++ e :: after)
      (.error .interrupted) progress s' ∧
    e.call = .sync 1 ∧ e.struck = true ∧ before.standing = .holding 1 ∧
    s'.world.files.entryAt? sampleRemoval.settings.paths.staging = none ∧
    (∀ mode, ∃ created, s'.world.files.create sampleRemoval.settings.paths.staging mode = .ok created) ∧
    s'.world.files.contents? sampleRemoval.settings.paths.primary =
      interruptedScene.faultless.world.files.contents? sampleRemoval.settings.paths.primary ∧
    s'.world.files.entryAt? sampleRemoval.settings.paths.primary =
      interruptedScene.faultless.world.files.entryAt? sampleRemoval.settings.paths.primary := by
  have hruns := interruptedScene.runs_trace {} sampleRemoval.execute admits_interrupted
  have hstruck : ∃ h : 12 < (interruptedScene.trace {} sampleRemoval.execute).length,
      (interruptedScene.trace {} sampleRemoval.execute)[12].struck = true ∧
      (interruptedScene.trace {} sampleRemoval.execute)[12].Fails .interrupted ∧
      (interruptedScene.trace {} sampleRemoval.execute)[12].call = .sync 1 := by decide +kernel
  have hcalm : ((interruptedScene.trace {} sampleRemoval.execute).take 12 ++
      (interruptedScene.trace {} sampleRemoval.execute).drop 13).all (!·.struck) = true := by decide +kernel
  have hheld : Trace.standing ((interruptedScene.trace {} sampleRemoval.execute).take 12) = .holding 1 := by
    decide +kernel
  generalize interruptedScene.trace {} sampleRemoval.execute = tr at *
  generalize (interruptedScene.run {} sampleRemoval.execute).1.1 = outcome at hruns
  obtain ⟨hlt, hstruck, hfails, hcall⟩ := hstruck
  have hsplit : tr = tr.take 12 ++ tr[12] :: tr.drop 13 := by
    rw [← List.drop_eq_getElem_cons, List.take_append_drop]
  simp only [List.all_append, Bool.and_eq_true, List.all_eq_true, Bool.not_eq_true'] at hcalm
  have hguarded : tr[12].call.Guarded (tr.take 12) := by
    rw [hcall]
    trivial
  rw [hsplit] at hruns
  obtain ⟨rfl, hreleased⟩ := released_when_passed sampleRemoval sound_sampleScene hruns hstruck hfails.2
    (fun _ h => by cases h) hcalm.1 hcalm.2 hheld hguarded
  exact ⟨tr.take 12, tr.drop 13, tr[12], _, _, hruns, hcall, hstruck, hheld, hreleased⟩

/-- A store of one record whose staging file the user interrupts when it was created and is made ready. -/
def unreadyScene : Scene :=
  { sampleScene with session.faults := [(.openStream, { failure := .interrupted })] }

/-- Nobody removes a staging file that was created and not yet made ready: the interruption passes, the file
    stays, and the next transaction finds the store busy. -/
theorem interrupted_openStream_not_released :
    (unreadyScene.trace {} sampleRemoval.execute).standing = .holding 1 ∧
      (unreadyScene.run {} sampleRemoval.execute).1.1 = .error .interrupted ∧
      (unreadyScene.run {} sampleRemoval.execute).2.world.files.entryAt? sampleRemoval.settings.paths.staging =
        some (.file 1) ∧
      ((unreadyScene.run {} sampleRemoval.execute).2.faultless.run {} sampleRemoval.execute).1.1 =
        .ok (sampleRemoval.aborted .start (.busy sampleRemoval.settings.paths.staging)) := by
  decide +kernel

end Transaction

end CredentialStore
