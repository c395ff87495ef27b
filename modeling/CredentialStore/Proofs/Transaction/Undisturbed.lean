import CredentialStore.Proofs.Transaction.Course

namespace CredentialStore

open FileSystem StorePaths

theorem StorePaths.Ready.of_changedOnly {paths : StorePaths} {fs fs' : FileSystem} {directory : Location}
    {changed : List Location} (hready : paths.Ready directory fs) (hchanged : ChangedOnly changed fs fs')
    (hfree : fs'.entry? (stagingAt directory) = none) : paths.Ready directory fs' where
  lead := hready.lead.of_changedOnly hchanged
  free := hfree
  clear hobstructed := hready.clear
    (hobstructed.imp (hchanged.directory _).1 (hchanged.directory _).1)

/-- Whoever does not hold a store leaves it ready. -/
theorem Reached.ready {paths : StorePaths} {update : Option Bytes → Option Bytes}
    {before now : FileSystem} {st : Standing} {directory : Location}
    (hreached : Reached paths update before st now) (hfree : ∀ file, st ≠ .holding file)
    (hready : paths.Ready directory before) : paths.Ready directory now := by
  cases hreached with
  | outside => exact hready
  | holding => exact absurd rfl (hfree _)
  | removed hlead _ hentry _ hchanged =>
    rw [hlead.unique hready.lead] at hentry
    exact hready.of_changedOnly hchanged hentry
  | installed hlead _ hentry _ hchanged =>
    rw [hlead.unique hready.lead] at hentry
    exact hready.of_changedOnly hchanged hentry

namespace Transaction

variable {t : Transaction} {session : Session} {s : Scene} {tr : Trace} {directory : Location}

/-- The phase in which a transaction ends that nothing impedes. -/
def phaseIn (t : Transaction) (session : Session) (contents : Option Bytes) : Phase :=
  match t.grantedIn session, t.resultIn session contents with
  | .error _, _ => .start
  | .ok _, .error _ => .merged
  | .ok _, .ok _ => .committed

/-- What a transaction reports that nothing impedes. -/
def reportIn (t : Transaction) (session : Session) (contents : Option Bytes) : Except Failure Report :=
  t.reportOf (t.phaseIn session contents) ((t.resultIn session contents).map Prod.fst)

theorem resultIn_of_grantedIn {failure : Failure} (hgranted : t.grantedIn session = .error failure)
    (contents : Option Bytes) : t.resultIn session contents = .error failure := by
  rw [resultIn_eq_bind, hgranted]
  rfl

theorem exists_granted_of_result {contents : Option Bytes} {result : Option Record × Bytes}
    (hresult : t.resultIn session contents = .ok result) :
    ∃ secrets, t.grantedIn session = .ok secrets := by
  cases hgranted : t.grantedIn session with
  | ok secrets => exact ⟨secrets, rfl⟩
  | error failure => cases (resultIn_of_grantedIn hgranted contents).symm.trans hresult

/-- A course that nothing impedes is told by the result. -/
theorem Course.eq_of_ready {outcome : Except Failure (Option Record)} {phase : Phase}
    (hcourse : t.Course s outcome phase tr) (hcalm : ¬tr.Disturbed)
    (hready : t.settings.paths.Ready directory s.world.files) :
    outcome = (t.resultIn s.session (t.storeBefore s.world.files)).map Prod.fst ∧
      phase = t.phaseIn s.session (t.storeBefore s.world.files) := by
  have hfree : ¬t.Impeded s.world.files tr := by
    rintro (hdisturbed | hnever)
    · exact hcalm hdisturbed
    · exact hnever directory hready
  cases hcourse with
  | refused hgranted =>
    rw [phaseIn, hgranted, resultIn_of_grantedIn hgranted]
    exact ⟨rfl, rfl⟩
  | ungated _ himpeded => exact absurd himpeded hfree
  | unmerged _ _ _ himpeded => exact absurd himpeded hfree
  | unfinished hgranted _ _ hreason =>
    rw [phaseIn, hgranted, hreason.resolve_left hcalm]
    exact ⟨rfl, rfl⟩
  | uninstalled _ _ _ _ _ himpeded => exact absurd himpeded hfree
  | committed hresult =>
    obtain ⟨secrets, hgranted⟩ := exists_granted_of_result hresult
    rw [phaseIn, hgranted, hresult]
    exact ⟨rfl, rfl⟩

/-- What an execution reports and leaves that nothing impedes. -/
structure Settled (t : Transaction) (session : Session) (directory : Location)
    (before after : FileSystem) (outcome : Except Failure Report) : Prop where
  reported : outcome = t.reportIn session (before.contents? t.settings.paths.primary)
  updated : after.contents? t.settings.paths.primary =
    t.updateIn session (before.contents? t.settings.paths.primary)
  sound : after.Sound
  ready : t.settings.paths.Ready directory after

theorem reports_reportOf (t : Transaction) (phase : Phase) (outcome : Except Failure (Option Record)) :
    t.Reports outcome (t.reportOf phase outcome) := by
  cases outcome with
  | ok record => exact .committed record phase
  | error failure =>
    cases failure with
    | credential error => exact .aborted error phase
    | _ => exact .escaped fun _ hequal => Failure.noConfusion hequal

theorem committed_reportIn_iff {contents : Option Bytes} :
    Committed (t.reportIn session contents) ↔ ∃ result, t.resultIn session contents = .ok result := by
  refine (t.reports_reportOf _ _).committed_iff.trans ?_
  cases t.resultIn session contents with
  | ok result => exact ⟨fun _ => ⟨result, rfl⟩, fun _ => ⟨result.1, rfl⟩⟩
  | error failure =>
    constructor
    · rintro ⟨_, hrecord⟩
      cases hrecord
    · rintro ⟨_, hresult⟩
      cases hresult

theorem Ended.not_holding {assumes : FileSystem → Prop} {outcome : Except Failure (Option Record)}
    (hended : t.Ended assumes session outcome tr) (hcalm : ¬tr.Disturbed) (file : FileId) :
    tr.standing ≠ .holding file := by
  intro hholding
  cases hended with
  | installed _ _ hinstalled => cases hinstalled.symm.trans hholding
  | failed hstanding =>
    rcases hstanding with houtside | hremoved | ⟨-, hdisturbed, -⟩
    · cases houtside.symm.trans hholding
    · cases hremoved.symm.trans hholding
    · exact hcalm hdisturbed

/-- An execution without faults in a scene where the store is ready. -/
theorem settled_of_ready (t : Transaction) (state : Progress) (hsound : s.world.files.Sound)
    (hready : t.settings.paths.Ready directory s.world.files) (hfaults : s.session.faults = []) :
    t.Settled s.session directory s.world.files (s.run state t.execute).2.world.files
      (s.run state t.execute).1.1 := by
  obtain ⟨tr, hruns, hcalm⟩ := s.runs_of_run .systemErrors state t.execute hfaults
  generalize s.run state t.execute = result at hruns ⊢
  obtain ⟨⟨outcome, progress⟩, s'⟩ := result
  obtain ⟨_, hreports, hended, hfollows⟩ := t.exists_ended_of_runs hsound hruns
  obtain ⟨hupdated, hkept⟩ := t.primary_of_execute hsound hruns
  obtain ⟨_, middle, _, first, hrun, rfl, rfl⟩ := of_execute Strikes.onFiles_systemErrors hruns
  have hreached := Reached.outside.of_follows hsound hfollows
  have hcalmRun : ¬first.Disturbed := fun hdisturbed =>
    hcalm (hdisturbed.extended (List.prefix_append _ _))
  obtain ⟨hresult, hphase⟩ := (t.course_of_runs hsound hrun).eq_of_ready hcalmRun hready
  rw [hresult, hphase] at hupdated hkept ⊢
  refine ⟨rfl, ?_, hreached.sound hsound, hreached.ready ?_ hready⟩
  · cases hresult : t.resultIn s.session (s.world.files.contents? t.settings.paths.primary) with
    | ok result =>
      obtain ⟨record, octets, hresult', hcontents⟩ := hupdated (committed_reportIn_iff.2 ⟨_, hresult⟩)
      rw [hcontents, updateIn_of_ok hresult']
    | error failure =>
      rw [updateIn, hresult]
      refine (hkept fun hcommitted => ?_).1
      obtain ⟨_, hok⟩ := committed_reportIn_iff.1 hcommitted
      cases hok.symm.trans hresult
  · exact hended.not_holding hcalm

end Transaction

end CredentialStore
