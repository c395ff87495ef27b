import CredentialStore.Proofs.Run.Planned
import CredentialStore.Proofs.Transaction.History
import CredentialStore.Proofs.Transaction.Stages

namespace CredentialStore

/-- Any errors of the file system at any calls on the files. -/
def Strikes.anySystemErrors : Strikes := fun _ c failure =>
  c.faultPoint?.isSome ∧ ∃ cause, failure = .system cause

theorem Strikes.foreign_of_anySystemErrors {fs : FileSystem} {c : Call} {failure : Failure}
    (hstrikes : anySystemErrors fs c failure) : foreign fs c failure := by
  obtain ⟨hpoint, cause, rfl⟩ := hstrikes
  exact ⟨hpoint, fun _ hcredential => by cases hcredential⟩

theorem Program.Runs.system_of_struck {α : Type} {p : Program α} {s s' : Scene} {tr : Trace} {value : α}
    (hruns : p.Runs .anySystemErrors s tr value s') {e : Event} (he : e ∈ tr) (hstruck : e.struck = true) :
    ∃ cause, e.answer = .error (.system cause) := by
  induction hruns with
  | done => cases he
  | call hanswer hrest ih =>
    rcases List.mem_cons.1 he with rfl | he
    · cases hanswer with
      | performed => cases hstruck
      | struck hstrikes =>
        obtain ⟨-, cause, rfl⟩ := hstrikes
        exact ⟨cause, rfl⟩
    · exact ih he

/-- Whether a call gives the staging file up, after other calls: it removes the file, or it closes one that
    was not synced. -/
def Call.GivesUpAfter (before : Trace) : Call → Prop
  | unlinkStaging _ => True
  | closeStaging _ => ¬before.Synced
  | _ => False

namespace Trace

/-- Whether a call failed with an error of the file system that the work does not go on after, and not
    while the staging file was given up. -/
def EndedBy (tr : Trace) (c : Call) (cause : SystemError) : Prop :=
  ∃ (first rest : Trace) (e : Event), tr = first ++ e :: rest ∧ e.call = c ∧ e.Fails (.system cause) ∧
    ¬c.Tolerates cause ∧ ¬c.GivesUpAfter first

variable {made : Failure → Prop} {tr rest : Trace} {failure : Failure} {cause : SystemError} {e : Event}

/-- A call that is excused gives the staging file up. -/
theorem givesUpAfter_of_excused {first : Trace} (hnotes : NotesUnsynced (first ++ e :: rest))
    (hexcused : e.call.Excused rest) : e.call.GivesUpAfter first := by
  cases hcall : e.call with
  | unlinkStaging path => trivial
  | closeStaging file =>
    rw [hcall] at hexcused
    obtain ⟨staging, hnoted⟩ := hexcused
    cases rest with
    | nil => cases hnoted
    | cons noted rest =>
      have hunsynced : ¬Synced (first ++ [e]) :=
        hnotes (first ++ [e]) rest noted staging (by simp) (Option.some.inj hnoted)
      exact fun hsynced => hunsynced (synced_append.2 (.inl hsynced))
  | _ =>
    rw [hcall] at hexcused
    exact False.elim hexcused

/-- The failure that calls lead to names an error that ended the work. -/
theorem LeadsTo.names (hleads : tr.LeadsTo (fun _ => False) made failure) (hnotes : tr.NotesUnsynced)
    (hbare : tr.BareSucceed) (hstruck : tr.StruckBySystem) {c : Call} (hended : tr.EndedBy c cause) :
    ∃ description, failure = .credential (c.names description cause) := by
  obtain ⟨before, after, e, htr, rfl, hfails, htolerates, hgives⟩ := hended
  have hsmooth : ∀ {first : Trace}, first.Smooth → e ∉ first := by
    intro first hsmooth he
    obtain ⟨cause', hcause, htolerated⟩ := hsmooth e he _ hfails
    cases hcause
    exact htolerates htolerated
  have hcleaning : ∀ {first : Trace}, ¬Cleaning (first ++ e :: after) := by
    intro first hcleaning
    obtain ⟨_, -, hexcused⟩ := hcleaning.excused hfails
    rw [htr] at hnotes
    exact hgives (givesUpAfter_of_excused hnotes hexcused)
  cases hleads with
  | made hfirst hrest _ =>
    obtain ⟨middle, rfl, -⟩ | ⟨middle, -, rfl⟩ := before_or_behind htr.symm
    · exact absurd (by simp) (hsmooth hfirst)
    · exact absurd hrest hcleaning
  | told hfirst hfails' hrest htells hcomes =>
    obtain ⟨middle, rfl, -⟩ | ⟨middle, -, hmiddle⟩ := before_or_behind htr.symm
    · exact absurd (by simp) (hsmooth hfirst)
    · cases middle with
      | nil =>
        obtain ⟨rfl, rfl⟩ := List.cons.inj hmiddle
        obtain rfl := hfails.unique hfails'
        cases htells with
        | same => exact False.elim (hcomes ⟨cause, rfl⟩)
        | named description => exact ⟨description, rfl⟩
      | cons _ middle =>
        obtain ⟨-, rfl⟩ := List.cons.inj hmiddle
        exact absurd hrest hcleaning
  | overruled hbroken => exact absurd hbroken (not_brokenOff hbare hstruck (by simp))

/-- What is done after the calls on the files does not end the work. -/
theorem EndedBy.of_append {c : Call} (hended : EndedBy (tr ++ rest) c cause)
    (hidle : ∀ e ∈ rest, e.call.faultPoint? = none) : tr.EndedBy c cause := by
  obtain ⟨before, after, e, htr, rfl, hfails, hunforgiven⟩ := hended
  obtain ⟨middle, rfl, -⟩ | ⟨middle, -, rfl⟩ := before_or_behind htr.symm
  · exact ⟨before, middle, e, rfl, rfl, hfails, hunforgiven⟩
  · cases (hidle e (by simp)).symm.trans (Option.eq_some_of_isSome hfails.1)

theorem Smooth.not_endedBy (hsmooth : tr.Smooth) (c : Call) : ¬tr.EndedBy c cause := by
  rintro ⟨before, after, e, rfl, rfl, hfails, htolerates, -⟩
  obtain ⟨cause', hcause, htolerated⟩ := hsmooth e (by simp) _ hfails
  cases hcause
  exact htolerates htolerated

end Trace

namespace Transaction

open CredentialStore.Action

variable {t : Transaction} {state state' : Progress} {s s' : Scene} {tr : Trace}

theorem run_names {outcome : Except Failure (Option Record)}
    (hruns : t.run.Runs .foreign state s tr outcome state' s') (hstruck : tr.StruckBySystem)
    (hbare : tr.BareSucceed) :
    (∀ c cause, tr.EndedBy c cause →
      ∃ description, outcome = .error (.credential (c.names description cause))) ∧
    ∀ cause, outcome = .error (.system cause) → ∀ e ∈ tr, e.call.faultPoint? = none := by
  have hnotes := notesUnsynced_of_run hruns
  have hidle : ∀ {outcome state' s' first}, t.opening.Runs .foreign state s first outcome state' s' →
      ∀ e ∈ first, e.call.faultPoint? = none := fun hruns => (granted_of_opening hruns).2.2
  have hsmooth : ∀ {first : Trace}, (∀ e ∈ first, e.call.faultPoint? = none) → first.Smooth := by
    intro first hidle e he failure hfails
    cases (hidle e he).symm.trans (Option.eq_some_of_isSome hfails.1)
  obtain ⟨failure, rfl, -, -, hrefused⟩ | ⟨secrets, _, _, first, rest, rfl, -, hgathered, hfirst, happly⟩ :=
    of_run hruns
  · refine ⟨fun c cause hended => ?_, fun cause _ => hidle hrefused⟩
    exact absurd hended ((hsmooth (hidle hrefused)).not_endedBy c)
  · have hbegin := hsmooth (hidle hfirst)
    cases outcome with
    | ok record =>
      refine ⟨fun c cause hended => ?_, fun cause hcause => by cases hcause⟩
      exact absurd hended ((hbegin.append (smooth_of_apply hgathered happly)).not_endedBy c)
    | error failure =>
      have hleads : Trace.LeadsTo (fun _ => False) t.Makes (first ++ rest) failure :=
        (leadsTo_of_apply _ hgathered happly).after hbegin
      refine ⟨fun c cause hended => ?_, fun cause hcause => ?_⟩
      · obtain ⟨description, rfl⟩ := hleads.names hnotes hbare hstruck hended
        exact ⟨description, rfl⟩
      · cases hcause
        exact absurd rfl (hleads.ne_system not_makes_system hbare hstruck cause)

/-- An error of the file system that ended the work of a transaction is named by the error of the store that
    its run fails with, and an execution reports that error. No error of the file system leaves a run or an
    execution as it is once a call on the files was made. -/
theorem failing_calls_reported (t : Transaction) :
    (∀ ⦃state s tr outcome state' s'⦄, t.run.Runs .anySystemErrors state s tr outcome state' s' →
      tr.BareSucceed →
      (∀ c cause, tr.EndedBy c cause →
        ∃ description, outcome = .error (.credential (c.names description cause))) ∧
      ∀ cause, outcome = .error (.system cause) → ∀ e ∈ tr, e.call.faultPoint? = none) ∧
    ∀ ⦃state s tr outcome state' s'⦄, t.execute.Runs .anySystemErrors state s tr outcome state' s' →
      tr.BareSucceed →
      (∀ c cause, tr.EndedBy c cause →
        ∃ phase description, outcome = .ok (t.aborted phase (c.names description cause))) ∧
      ∀ cause, outcome = .error (.system cause) → ∀ e ∈ tr, e.call.faultPoint? = none := by
  refine ⟨fun state s tr outcome state' s' hruns hbare => ?_,
    fun state s tr outcome state' s' hruns hbare => ?_⟩
  · have hstruck : tr.StruckBySystem := fun e he hstruck => hruns.system_of_struck he hstruck
    exact run_names (hruns.mono fun _ _ _ => Strikes.foreign_of_anySystemErrors) hstruck hbare
  · have hstruck : tr.StruckBySystem := fun e he hstruck => hruns.system_of_struck he hstruck
    obtain ⟨result, middle, s₁, first, hrun, rfl, rfl⟩ :=
      of_execute Strikes.onFiles_foreign (hruns.mono fun _ _ _ => Strikes.foreign_of_anySystemErrors)
    obtain ⟨hnames, hraw⟩ := run_names hrun (fun e he => hstruck e (by simp [he]))
      fun e he => hbare e (by simp [he])
    have hidle : ∀ e ∈ (t.closing middle.phase result).map fun event =>
        (⟨.log (.audit event), .ok (), false⟩ : Event), e.call.faultPoint? = none := by
      simp [Call.faultPoint?]
    refine ⟨fun c cause hended => ?_, fun cause hcause e he => ?_⟩
    · obtain ⟨description, rfl⟩ := hnames c cause (hended.of_append hidle)
      exact ⟨middle.phase, description, rfl⟩
    · rcases List.mem_append.1 he with he | he
      · exact hraw cause (eq_error_of_reportOf hcause) e he
      · exact hidle e he

/-- A store of one record that cannot be synced. -/
def syncFaultScene : Scene :=
  { sampleScene with session.faults := [(.sync, { failure := .system (.numbered .inputOutput) })] }

theorem admits_of_system {point : FaultPoint} {cause : SystemError} :
    Strikes.anySystemErrors.Admits [(point, { failure := .system cause })] :=
  Strikes.admits_singleton fun _ _ hpoint => ⟨by rw [hpoint]; rfl, cause, rfl⟩

/-- The removal syncs the staging file in vain: the run and the execution name the error. -/
theorem sampleRemoval_reported :
    ((syncFaultScene.trace {} sampleRemoval.run).EndedBy (.sync 1) (.numbered .inputOutput) ∧
      ∃ description, (syncFaultScene.run {} sampleRemoval.run).1.1 =
        .error (.credential ((Call.sync 1).names description (.numbered .inputOutput)))) ∧
    (syncFaultScene.trace {} sampleRemoval.execute).EndedBy (.sync 1) (.numbered .inputOutput) ∧
      ∃ phase description, (syncFaultScene.run {} sampleRemoval.execute).1.1 =
        .ok (sampleRemoval.aborted phase ((Call.sync 1).names description (.numbered .inputOutput))) := by
  have hended : ∀ {tr : Trace}, (∃ h : 12 < tr.length, tr[12].call = .sync 1 ∧
      tr[12].Fails (.system (.numbered .inputOutput))) → tr.EndedBy (.sync 1) (.numbered .inputOutput) := by
    rintro tr ⟨h, hcall, hfails⟩
    refine ⟨tr.take 12, tr.drop 13, tr[12], ?_, hcall, hfails, fun h => h, fun h => h⟩
    rw [← List.drop_eq_getElem_cons, List.take_append_drop]
  have hbare : ∀ {tr : Trace}, (∀ e ∈ tr, e.failure? = none ∨ e.call = .sync 1) → tr.BareSucceed := by
    intro tr hothers e he hunmet
    obtain hok | hcall := hothers e he
    · exact Event.failure?_eq_none.1 hok
    · rw [hcall] at hunmet
      exact False.elim hunmet
  have hrun : (syncFaultScene.trace {} sampleRemoval.run).EndedBy (.sync 1) (.numbered .inputOutput) :=
    hended (by decide +kernel)
  have hexecute : (syncFaultScene.trace {} sampleRemoval.execute).EndedBy (.sync 1) (.numbered .inputOutput) :=
    hended (by decide +kernel)
  refine ⟨⟨hrun, ?_⟩, hexecute, ?_⟩
  · exact ((failing_calls_reported sampleRemoval).1 (syncFaultScene.runs_trace {} _ admits_of_system)
      (hbare (by decide +kernel))).1 _ _ hrun
  · exact ((failing_calls_reported sampleRemoval).2 (syncFaultScene.runs_trace {} _ admits_of_system)
      (hbare (by decide +kernel))).1 _ _ hexecute

/-- A removal of a record that has to be there. -/
def strictRemoval : Transaction :=
  { sampleRemoval with settings.allowMissingDelete := false, identity := text "bo" }

/-- A store whose staging file cannot be closed. -/
def closeFaultScene : Scene :=
  { sampleScene with session.faults := [(.closeStaging, { failure := .system (.numbered .inputOutput) })] }

/-- Where the record is missing and the staging file cannot be closed when it is given up, no other call
    fails, and the transaction reports the missing record. -/
theorem close_given_up_not_reported : ∃ tr progress s',
    strictRemoval.execute.Runs .anySystemErrors {} closeFaultScene.faultless tr
      (.ok (strictRemoval.aborted .merged (.notFound (text "bo") (text "sys")))) progress s' ∧
    (∃ e ∈ tr, e.call = .closeStaging 1 ∧ e.Fails (.system (.numbered .inputOutput))) ∧
    ¬(Call.closeStaging 1).Tolerates (.numbered .inputOutput) ∧
    ∀ e ∈ tr, e.call = .closeStaging 1 ∨ ∃ reply, e.answer = .ok reply := by
  have hruns := closeFaultScene.runs_trace {} strictRemoval.execute admits_of_system
  have hreport : (closeFaultScene.run {} strictRemoval.execute).1.1 =
      .ok (strictRemoval.aborted .merged (.notFound (text "bo") (text "sys"))) := by decide +kernel
  rw [hreport] at hruns
  have hothers : ∀ e ∈ closeFaultScene.trace {} strictRemoval.execute,
      e.call = .closeStaging 1 ∨ e.failure? = none := by decide +kernel
  exact ⟨_, _, _, hruns, by decide +kernel, fun h => h,
    fun e he => (hothers e he).imp_right Event.failure?_eq_none.1⟩

end Transaction

end CredentialStore
