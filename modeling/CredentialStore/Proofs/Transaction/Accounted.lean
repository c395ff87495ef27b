import CredentialStore.Proofs.Transaction.Authorized
import CredentialStore.Proofs.Transaction.Course

namespace CredentialStore

open FileSystem StorePaths

/-- Whether an event moved a staging file into the place of the primary one. -/
def Event.Installs (paths : StorePaths) (e : Event) : Prop :=
  ∃ struck, e = ⟨.install paths.staging paths.primary, .ok (), struck⟩

/-- Whether an event created a staging file. -/
def Event.Creates (paths : StorePaths) (e : Event) : Prop :=
  ∃ mode file struck, e = ⟨.createStaging paths.staging mode, .ok file, struck⟩

theorem Event.Installs.turn?_eq {paths : StorePaths} {e : Event} (hinstalls : e.Installs paths) :
    e.turn? = some .installed := by
  obtain ⟨struck, rfl⟩ := hinstalls
  rfl

namespace Conduct

variable {paths : StorePaths} {update : Option Bytes → Option Bytes} {st : Standing}
  {fs fs' : FileSystem} {e : Event}

theorem installs (hconduct : Conduct paths update st fs e fs') (hturn : e.turn? = some .installed) :
    e.Installs paths := by
  cases hconduct with
  | install => exact ⟨_, rfl⟩
  | aside hnone => cases hnone.symm.trans hturn
  | work hnone => cases hnone.symm.trans hturn
  | create => cases hturn
  | remove => cases hturn

theorem creates {file : FileId} (hconduct : Conduct paths update st fs e fs')
    (hturn : e.turn? = some (.holding file)) : e.Creates paths := by
  cases hconduct with
  | create => exact ⟨_, _, _, rfl⟩
  | aside hnone => cases hnone.symm.trans hturn
  | work hnone => cases hnone.symm.trans hturn
  | remove => cases hturn
  | install => cases hturn

end Conduct

/-- Every event of a trace of allowed steps was allowed where it happened. -/
theorem Contract.Follows.exists_allows {k : Contract} {st : Standing} {fs fs' : FileSystem} {tr : Trace}
    (hfollows : k.Follows st fs tr fs') {e : Event} (he : e ∈ tr) :
    ∃ st fs fs', k.allows st fs e fs' := by
  induction hfollows with
  | nil => cases he
  | cons hstep hrest ih =>
    rcases List.mem_cons.1 he with rfl | he
    · exact ⟨_, _, _, hstep⟩
    · exact ih he

namespace Transaction

variable {t : Transaction} {state state' : Progress} {s s' : Scene} {tr : Trace} {report : Report}

/-- Whether a report is of an error of the file system that a call of one of some kinds failed with. -/
def Report.IsOf (report : Report) (points : List FaultPoint) (tr : Trace) : Prop :=
  report.outcome = .storeFailure ∧
    ∃ action cause, report.error = some (.onFile action cause) ∧ tr.FailedAt points cause

/-- What a report tells of the calls of its transaction and of the files that they met. -/
structure Accounts (t : Transaction) (s : Scene) (report : Report) (tr : Trace) : Prop where
  /-- A transaction is reported as committed exactly if its staging file was installed. -/
  installed : report.outcome = .committed ↔ ∃ e ∈ tr, e.Installs t.settings.paths
  phase : report.outcome = .committed ↔ report.phase = .committed
  error : report.outcome = .committed ↔ report.error = none
  aborted : report.outcome ≠ .committed → report.phase = .aborted ∧
    report.failedIn ∈ [some .start, some .gated, some .merged, some .validated]
  /-- Nothing was read from the primary file and nothing was written to the staging file. -/
  start : report.failedIn = some .start → ∀ e ∈ tr, ¬e.call.Copies
  /-- The staging file was created where none lay, and copying the lines failed. -/
  gated : report.failedIn = some .gated →
    s.world.files.entryAt? t.settings.paths.staging = none ∧
      (∃ e ∈ tr, e.Creates t.settings.paths) ∧ report.IsOf Rewrite.mergePoints tr
  /-- The whole primary file was read before; then the record or its secret was missed, or a call failed
      that adds the new record or closes the staging file. -/
  merged : report.failedIn = some .merged → ∃ read work, tr = read ++ work ∧
    read.fetched = (s.world.files.contents? t.settings.paths.primary).getD [] ∧
      (report.outcome = .notFound ∨ report.outcome = .mismatch ∨ report.IsOf Rewrite.finishPoints work)
  /-- The staging file was closed before with exactly the new store in it; then a call failed that commits
      it. -/
  validated : report.failedIn = some .validated → ∃ done work file record octets, tr = done ++ work ∧
    t.resultIn s.session (s.world.files.contents? t.settings.paths.primary) = .ok (record, octets) ∧
      done.Closed file ∧ (s.after done).world.files.fileId? t.settings.paths.staging = some file ∧
      (s.after done).world.files.contents? t.settings.paths.staging = some octets ∧
      report.IsOf Commit.faultPoints work
  /-- What is found out before the store is held ends the transaction there. -/
  refused : report.outcome ∈ [.permissionDenied, .validationFailed, .noSecret, .busy] →
    report.failedIn = some .start

theorem ofError_ne_committed (error : CredentialError) : Outcome.ofError error ≠ .committed := by
  cases error <;> simp [Outcome.ofError]

theorem isOf_of_explains {points : List FaultPoint} {phase : Phase} {error : CredentialError}
    (hexplains : tr.Explains points (.credential error)) : (t.aborted phase error).IsOf points tr := by
  obtain ⟨action, cause, rfl, hfailed⟩ := hexplains
  exact ⟨rfl, action, cause, rfl, hfailed⟩

/-- An error that is found out before the store is held is none that a call on the files failed with. -/
theorem not_explains_of_refused {points : List FaultPoint} {error : CredentialError}
    (hrefused : Outcome.ofError error ∈ [.permissionDenied, .validationFailed, .noSecret, .busy]) :
    ¬tr.Explains points (.credential error) := by
  rintro ⟨action, cause, rfl, -⟩
  simp [CredentialError.onFile, Outcome.ofError] at hrefused

theorem not_blames_of_refused {error : CredentialError}
    (hrefused : Outcome.ofError error ∈ [.permissionDenied, .validationFailed, .noSecret, .busy]) :
    ¬t.Blames (.credential error) tr := by
  rintro (hmissing | hwrong | hexplains)
  · cases hmissing
    simp [Outcome.ofError] at hrefused
  · cases hwrong
    simp [CredentialError.wrongSecret, Outcome.ofError] at hrefused
  · exact not_explains_of_refused hrefused hexplains

/-- An execution that reports an error accounts for it, by how far its run came. -/
theorem accounts_of_course {phase : Phase} {error : CredentialError} {first noted : Trace}
    (hcourse : t.Course s (.error (.credential error)) phase first)
    (hnoted : ∀ e ∈ noted, ∃ event, e.call = .log event)
    (hinstalled : ¬∃ e ∈ first ++ noted, e.Installs t.settings.paths)
    (hcreates : ∀ e ∈ first ++ noted, ∀ file, e.turn? = some (.holding file) →
      e.Creates t.settings.paths) :
    t.Accounts s (t.aborted phase error) (first ++ noted) := by
  have hfailed := ofError_ne_committed error
  refine ⟨iff_of_false hfailed hinstalled, iff_of_false hfailed ?_, iff_of_false hfailed ?_,
    fun _ => ⟨rfl, ?_⟩, fun hphase => ?_, fun hphase => ?_, fun hphase => ?_, fun hphase => ?_,
    fun hrefused => ?_⟩
  · simp [aborted]
  · simp [aborted]
  · cases hcourse <;> simp [aborted]
  · have hidle : ∀ e ∈ first, ¬e.call.Copies := by
      cases hphase
      cases hcourse <;> assumption
    intro e he
    rcases List.mem_append.1 he with he | he
    · exact hidle e he
    · obtain ⟨event, hcall⟩ := hnoted e he
      rw [hcall]
      exact fun hcopies => hcopies
  · cases hphase
    cases hcourse with
    | unmerged hfree hcreated hexplains =>
      obtain ⟨e, he, hturn⟩ := hcreated
      have he := List.mem_append_left noted he
      refine ⟨hfree, ⟨e, he, hcreates e he _ hturn⟩, isOf_of_explains ?_⟩
      exact hexplains.extended (List.prefix_append _ _)
  · cases hphase
    cases hcourse with
    | @unfinished _ _ read work _ hread hblames =>
      refine ⟨read, work ++ noted, List.append_assoc _ _ _, hread, ?_⟩
      rcases hblames with hmissing | hwrong | hexplains
      · cases hmissing
        exact .inl rfl
      · cases hwrong
        exact .inr (.inl rfl)
      · exact .inr (.inr (isOf_of_explains (hexplains.extended (List.prefix_append _ _))))
  · cases hphase
    cases hcourse with
    | @uninstalled _ record octets file done work hresult hclosed hfile hstaging hexplains =>
      refine ⟨done, work ++ noted, file, record, octets, List.append_assoc _ _ _, hresult, hclosed, hfile,
        hstaging, isOf_of_explains ?_⟩
      exact hexplains.extended (List.prefix_append _ _)
  · cases hcourse with
    | refused | ungated => rfl
    | unmerged _ _ hexplains => exact absurd hexplains (not_explains_of_refused hrefused)
    | unfinished _ _ hblames => exact absurd hblames (not_blames_of_refused hrefused)
    | uninstalled _ _ _ _ hexplains => exact absurd hexplains (not_explains_of_refused hrefused)

/-- An execution that reports accounts for what it did, in whatever phase the one before it ended. -/
theorem accounts_of_runs (t : Transaction) (hsound : s.world.files.Sound)
    (hruns : t.execute.Runs .systemErrors state s tr (.ok report) state' s') :
    t.Accounts s report tr := by
  obtain ⟨_, -, -, hfollows⟩ := t.exists_ended_of_runs hsound hruns
  have hinstalled : report.isCommitted = true ↔ ∃ e ∈ tr, e.Installs t.settings.paths := by
    refine Iff.trans ⟨fun hcommitted => ⟨report, rfl, hcommitted⟩, ?_⟩
      ((t.committed_iff_installed hsound hruns).trans ⟨?_, ?_⟩)
    · rintro ⟨_, hreport, hcommitted⟩
      cases hreport
      exact hcommitted
    · rintro ⟨e, he, hturn⟩
      obtain ⟨_, _, _, hconduct⟩ := hfollows.exists_allows he
      exact ⟨e, he, Conduct.installs hconduct hturn⟩
    · rintro ⟨e, he, hinstalls⟩
      exact ⟨e, he, hinstalls.turn?_eq⟩
  have hcreates : ∀ e ∈ tr, ∀ file, e.turn? = some (.holding file) → e.Creates t.settings.paths := by
    intro e he file hturn
    obtain ⟨_, _, _, hconduct⟩ := hfollows.exists_allows he
    exact Conduct.creates hconduct hturn
  obtain ⟨outcome, middle, _, first, hrun, hreport, rfl⟩ := of_execute Strikes.onFiles_systemErrors hruns
  have hcourse := t.course_of_runs hsound hrun
  cases outcome with
  | ok record =>
    cases hreport
    have hphase : middle.phase = .committed := by
      generalize middle.phase = phase at hcourse
      cases hcourse
      rfl
    refine ⟨iff_of_true rfl (hinstalled.1 rfl), iff_of_true rfl hphase, iff_of_true rfl rfl,
      fun hnot => absurd rfl hnot, ?_, ?_, ?_, ?_, ?_⟩
    all_goals simp
  | error failure =>
    cases failure with
    | credential error =>
      cases hreport
      refine accounts_of_course hcourse (by simp [closing]) ?_ hcreates
      rw [← hinstalled, isCommitted_aborted]
      exact Bool.false_ne_true
    | _ => cases hreport

/-- One execution of a transaction: the scene that it met, its calls and what it gave. -/
structure Execution where
  scene : Scene
  trace : Trace
  outcome : Except Failure Report

/-- Executions of one transaction after each other. Each starts as the one before it ended; in between,
    anything can happen to the files. -/
inductive Executions (t : Transaction) : Progress → List Execution → Prop
  | nil (state : Progress) : Executions t state []
  | cons {state state' : Progress} {s s' : Scene} {tr : Trace} {outcome : Except Failure Report}
      {rest : List Execution} (hsound : s.world.files.Sound)
      (hruns : t.execute.Runs .systemErrors state s tr outcome state' s')
      (hrest : Executions t state' rest) : Executions t state (⟨s, tr, outcome⟩ :: rest)

/-- However often a transaction is executed, every report accounts for what its execution did. -/
theorem accounts_of_executions (t : Transaction) {executions : List Execution}
    (hexecutions : t.Executions state executions) {x : Execution} (hx : x ∈ executions)
    (hreport : x.outcome = .ok report) : t.Accounts x.scene report x.trace := by
  induction hexecutions with
  | nil state => cases hx
  | cons hsound hruns hrest ih =>
    rcases List.mem_cons.1 hx with rfl | hx
    · cases hreport
      exact t.accounts_of_runs hsound hruns
    · exact ih hx

/-- The directory of the change, where the first answer is not the old secret. -/
def mistakenScene : Scene where
  world := changeScene.world
  session := { script := [some (text "secret0"), some (text "secret2"), some (text "secret2")] }

/-- A change is executed with a wrong secret and again with the right one, and both reports account for
    what was done. -/
theorem sampleChange_accounts : ∃ first second report report',
    sampleChange.Executions {} [first, second] ∧ first.outcome = .ok report ∧
      second.outcome = .ok report' ∧ report.failedIn = some .merged ∧ report'.isCommitted = true ∧
      sampleChange.Accounts first.scene report first.trace ∧
      sampleChange.Accounts second.scene report' second.trace := by
  obtain ⟨tr, hruns, -⟩ := mistakenScene.runs_of_run .systemErrors {} sampleChange.execute rfl
  have hfailed : (mistakenScene.run {} sampleChange.execute).1.1 =
      .ok (sampleChange.aborted .merged .wrongSecret) := by decide +kernel
  generalize hresult : mistakenScene.run {} sampleChange.execute = result at hruns hfailed
  obtain ⟨⟨outcome, progress⟩, s'⟩ := result
  have hprogress : progress = (mistakenScene.run {} sampleChange.execute).1.2 := by rw [hresult]
  obtain ⟨tr', hruns', -⟩ := changeScene.runs_of_run .systemErrors progress sampleChange.execute rfl
  have hcommitted : Committed (changeScene.run progress sampleChange.execute).1.1 := by
    rw [hprogress]
    decide +kernel
  generalize changeScene.run progress sampleChange.execute = result' at hruns' hcommitted
  obtain ⟨⟨outcome', progress'⟩, s''⟩ := result'
  cases hfailed
  obtain ⟨report', rfl, hcommitted⟩ := hcommitted
  have hexecutions : sampleChange.Executions {} [⟨mistakenScene, tr, _⟩, ⟨changeScene, tr', .ok report'⟩] :=
    .cons sound_changeScene hruns (.cons sound_changeScene hruns' (.nil progress'))
  exact ⟨_, _, _, report', hexecutions, rfl, rfl, rfl, hcommitted,
    accounts_of_executions sampleChange hexecutions (by simp) rfl,
    accounts_of_executions sampleChange hexecutions (by simp) rfl⟩

end Transaction

end CredentialStore
