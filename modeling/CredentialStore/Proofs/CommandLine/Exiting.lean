import CredentialStore.CommandLine.Run
import CredentialStore.Log.Output
import CredentialStore.Proofs.Transaction.Logged
import CredentialStore.Proofs.Transaction.Returning

namespace CredentialStore

open CredentialStore.Action

namespace Rewrite

variable {r : Rewrite} {strikes : Strikes} {state state' : State} {s s' : Scene} {tr : Trace}

/-- A store is not acquired at a place that no path names. -/
theorem ofText_of_acquire (hstaging : ¬r.staging.NamesPath) (hcalm : tr.Calm) {outcome : Except Failure Unit}
    (hruns : r.acquire.Runs strikes state s tr outcome state' s') :
    ∃ failure, outcome = .error failure ∧ failure.OfText := by
  obtain ⟨failure, hcreate, htext⟩ : ∃ failure, s.world.files.create r.staging r.mode = .error failure ∧
      failure.OfText := FileSystem.ofText_of_create hstaging
  have hask : ∀ {tr : Trace} {outcome : Except Failure FileId} {state' : State} {s' : Scene}, tr.Calm →
      (ask (.createStaging r.staging r.mode) : Action State FileId).Runs strikes state s tr outcome state' s' →
        outcome = .error failure := by
    intro tr outcome state' s' hcalm hask
    obtain ⟨-, struck, rfl, hanswer⟩ := Runs.of_ask (c := .createStaging r.staging r.mode) hask
    obtain ⟨-, hperformed, -⟩ | ⟨_, hstruck, -⟩ := hanswer.performed_or_struck
    · simp only [Scene.perform, World.answer, hcreate] at hperformed
      exact hperformed
    · cases (hcalm _ (List.mem_singleton_self _)).symm.trans hstruck
  -- no error of the file system is behind it, so that none is met
  have hfailed : ∀ {handler : SystemError → Action State FileId} {tr : Trace} {outcome : Except Failure FileId}
      {state' : State} {s' : Scene}, tr.Calm → ((ask (.createStaging r.staging r.mode)).onSystemError handler).Runs
        strikes state s tr outcome state' s' → outcome = .error failure := by
    intro handler tr outcome state' s' hcalm hruns
    obtain ⟨_, -, hok⟩ | ⟨_, -, rfl, hother⟩ | ⟨cause, _, _, _, _, rfl, hsystem, -⟩ := Runs.of_onSystemError hruns
    · cases hask hcalm hok
    · exact hask hcalm hother
    · cases hask (fun e he => hcalm e (List.mem_append_left _ he)) hsystem
      rcases htext with htext | htext <;> cases htext
  obtain ⟨_, _, _, first, _, rfl, hfirst, -⟩ | ⟨_, rfl, hfirst⟩ := hruns.of_bind
  · cases hfailed (fun e he => hcalm e (List.mem_append_left _ he)) hfirst
  · cases hfailed hcalm hfirst
    exact ⟨_, rfl, htext⟩

end Rewrite

namespace Transaction

variable {t : Transaction} {secrets : Secrets} {state state' : Progress} {s s' : Scene} {tr : Trace}

/-- A transaction is not applied to a store at a place that no path names. -/
theorem ofText_of_apply (hroot : ¬t.settings.serverRoot.NamesPath) (hcalm : tr.Calm)
    {outcome : Except Failure (Option Record)}
    (hruns : (t.apply secrets).Runs .foreign state s tr outcome state' s') :
    ∃ failure, outcome = .error failure ∧ failure.OfText := by
  have hstaging : ¬t.rewrite.staging.NamesPath := fun h => hroot (StorePaths.namesPath_of_within h)
  obtain ⟨_, _, _, _, _, rfl, hacquire, -⟩ | ⟨_, rfl, hacquire⟩ := (Runs.of_modify_bind hruns).of_bind
  · obtain ⟨_, -, hruns⟩ := Runs.of_onPart hacquire
    obtain ⟨_, hok, -⟩ := Rewrite.ofText_of_acquire hstaging (fun e he => hcalm e (List.mem_append_left _ he)) hruns
    cases hok
  · obtain ⟨_, -, hruns⟩ := Runs.of_onPart hacquire
    obtain ⟨_, hfailure, htext⟩ := Rewrite.ofText_of_acquire hstaging hcalm hruns
    cases hfailure
    exact ⟨_, rfl, htext⟩

/-- Where nothing strikes, a transaction whose prompts are answered by a script fails with an error of the store,
    or over a text: one that cannot be encoded where a secret is to be stored for it, or the place of the store. -/
theorem expects_or_ofText_of_run {failure : Failure} (hsource : t.source = .script) (hcalm : tr.Calm)
    (hruns : t.run.Runs .foreign state s tr (.error failure) state' s') :
    t.Expects failure ∨ ¬t.settings.serverRoot.NamesPath ∧ failure.OfText := by
  by_cases hroot : t.settings.serverRoot.NamesPath
  · exact .inl (expects_of_run hsource hroot hcalm hruns)
  obtain ⟨_, hfailure, hgranted, -⟩ | ⟨secrets, _, _, first, rest, rfl, -, -, -, happly⟩ := of_run hruns
  · cases hfailure
    exact .inl (expects_of_grantedIn hsource hgranted)
  · obtain ⟨_, hfailure, htext⟩ := ofText_of_apply hroot (fun e he => hcalm e (List.mem_append_right _ he)) happly
    cases hfailure
    exact .inr ⟨hroot, htext⟩

end Transaction

namespace CommandLine

/-- Whether a command ends with an exit status. -/
def EndsWith (status : Nat) (outcome : Except Failure Ending) : Prop :=
  ∃ ending, outcome = .ok ending ∧ ending.exitStatus = status

/-- Whether a command reports a transaction that committed. -/
def Committed (outcome : Except Failure Ending) : Prop :=
  ∃ report, outcome = .ok (.reported report) ∧ report.isCommitted = true

@[simp] theorem endsWith_ok {status : Nat} {ending : Ending} :
    EndsWith status (.ok ending) ↔ ending.exitStatus = status := by simp [EndsWith]

@[simp] theorem not_endsWith_error {status : Nat} {failure : Failure} : ¬EndsWith status (.error failure) := by
  simp [EndsWith]

@[simp] theorem not_committed_error {failure : Failure} : ¬Committed (.error failure) := by simp [Committed]

theorem not_committed_of_ne {ending : Ending} (hother : ∀ report, ending ≠ .reported report) :
    ¬Committed (.ok ending) := by
  rintro ⟨report, hreported, -⟩
  exact hother report (Except.ok.inj hreported)

theorem committed_reported {report : Except Failure Transaction.Report} :
    Committed (report.map .reported) ↔ Transaction.Committed report := by
  cases report <;> simp [Committed, Transaction.Committed, Except.map]

instance (outcome : Except Failure Ending) : Decidable (Committed outcome) :=
  match outcome with
  | .ok (.reported report) => decidable_of_iff (report.isCommitted = true) (by simp [Committed])
  | .ok .streamClosed | .ok (.interrupted _) | .ok (.refused _) | .error _ => isFalse (by simp [Committed])

instance (status : Nat) (outcome : Except Failure Ending) : Decidable (EndsWith status outcome) :=
  match outcome with
  | .ok _ => decidable_of_iff _ endsWith_ok.symm
  | .error _ => isFalse not_endsWith_error

namespace Invocation

/-- Whether help is asked for. -/
def AsksForHelp (call : Invocation) : Prop :=
  call.streamsOpen = true ∧ Request.ofTexts call.words = .error .help

/-- The transaction that a command runs, where it comes to that. -/
def transaction? (call : Invocation) : Option Transaction :=
  match call.streamsOpen, Request.ofTexts call.words with
  | true, .ok request =>
    match call.defaults.settings call.machine (given request) with
    | .ok settings => some (.of settings request.operation request.user request.group call.source)
    | .error _ => none
  | _, _ => none

def logOptions (call : Invocation) : Log.Options := call.defaults.logOptions call.machine

/-- Whether the log is kept in no file, or in one that is not the primary file of the command's transaction. -/
def LogsElsewhere (call : Invocation) (fs : FileSystem) (place : Location) : Prop :=
  call.logOptions.keepsFile = true → ∀ t, call.transaction? = some t → t.settings.paths.ApartFrom fs place

/-- What comes out of a command in place of an exit status. -/
inductive Escapes (call : Invocation) (tr : Trace) : Failure → Prop
  /-- The level of the log has a name that is not known. -/
  | level {problem : Log.LevelProblem} (hlevel : Log.Level.ofName call.logOptions.level = .error problem) :
      Escapes call tr (.level problem)
  /-- The file of the log cannot be opened. -/
  | logFile {failure : Failure} (hkeeps : call.logOptions.keepsFile = true)
      (hstruck : ⟨.setUpLog call.logOptions, .error failure, true⟩ ∈ tr) : Escapes call tr failure
  /-- A secret is to be stored for an identity or a realm that cannot be encoded. -/
  | unencodable {t : Transaction} (htransaction : call.transaction? = some t) (hunencodable : t.Unencodable) :
      Escapes call tr .unencodable
  /-- The store lies at a place that no path names. -/
  | unnamed {t : Transaction} {failure : Failure} (htransaction : call.transaction? = some t)
      (hroot : ¬t.settings.serverRoot.NamesPath) (hfailure : failure.OfText) : Escapes call tr failure

/-- What a command does in a scene while its log may be kept in a file at a place. -/
inductive Course (call : Invocation) (place : Location) (s : Scene) :
    Trace → Except Failure Ending → Scene → Prop
  /-- A stream is not open, and nothing is done. -/
  | closed (hclosed : call.streamsOpen = false) : Course call place s [] (.ok .streamClosed) s
  /-- The words are no request. -/
  | interrupted {why : Interruption} (hopen : call.streamsOpen = true)
      (hrequest : Request.ofTexts call.words = .error why) : Course call place s [] (.ok (.interrupted why)) s
  /-- The log is not set up. -/
  | unlogged {request : Request} {struck : Bool} {failure : Failure} {s' : Scene} (hopen : call.streamsOpen = true)
      (hrequest : Request.ofTexts call.words = .ok request)
      (hwhy : call.logOptions.keepsFile = true ∧ struck = true ∨
        ∃ problem, failure = .level problem ∧ Log.Level.ofName call.logOptions.level = .error problem)
      (hfiles : s'.world.files = s.world.files) :
      Course call place s [⟨.setUpLog call.logOptions, .error failure, struck⟩] (.error failure) s'
  /-- The settings break rules. -/
  | refused {request : Request} {problems : List (Settings.Field × Settings.Problem)} {e : Event}
      {log : Option FileId} {s' : Scene} (hopen : call.streamsOpen = true)
      (hrequest : Request.ofTexts call.words = .ok request)
      (hlevel : ∃ level, Log.Level.ofName call.logOptions.level = .ok level)
      (htransaction : call.transaction? = none) (hturn : e.turn? = none)
      (hopens : call.logOptions.Opens place s.world.files log s'.world.files) :
      Course call place s [e] (.ok (.refused problems)) s'
  /-- The transaction is run as it is where nothing is added to the file of the log. -/
  | executed {request : Request} {t : Transaction} {report : Except Failure Transaction.Report}
      {progress : Transaction.Progress} {e : Event} {rest : Trace} {s₁ last s' : Scene}
      (hopen : call.streamsOpen = true) (hrequest : Request.ofTexts call.words = .ok request)
      (hlevel : ∃ level, Log.Level.ofName call.logOptions.level = .ok level)
      (htransaction : call.transaction? = some t) (hsource : t.source = call.source) (hturn : e.turn? = none)
      (hsound : s₁.world.files.Sound) (hcalm : rest.Calm)
      (hruns : t.execute.Runs .systemErrors {} s₁ rest report progress last)
      (hbefore : s.world.files.SamePrimary t.settings.paths s₁.world.files)
      (hafter : last.world.files.SamePrimary t.settings.paths s'.world.files) :
      Course call place s (e :: rest) (report.map .reported) s'

variable {call : Invocation} {place : Location} {s s' : Scene} {tr : Trace} {outcome : Except Failure Ending}
  {progress : Transaction.Progress}

/-- The course of a command that carries a request out. -/
theorem course_of_carryOut {request : Request} (hsound : s.world.files.Sound)
    (helsewhere : call.LogsElsewhere s.world.files place) (hopen : call.streamsOpen = true)
    (hrequest : Request.ofTexts call.words = .ok request)
    (hruns : (call.carryOut request).RunsLogging place none {} s tr outcome progress s') :
    call.Course place s tr outcome s' := by
  obtain ⟨answer, struck, rest, log, s₁, rfl, hserves, hrest⟩ :=
    Program.RunsLogging.of_call (c := .setUpLog call.logOptions) hruns
  obtain ⟨rfl, hlevel, hopens⟩ | ⟨hfiles, failure, rfl, hwhy⟩ := hserves.of_setUpLog
  · cases hsettings : call.defaults.settings call.machine (given request) with
    | error problems =>
      simp only [hsettings] at hrest
      cases hrest
      exact .refused hopen hrequest hlevel (by simp [transaction?, hopen, hrequest, hsettings]) rfl hopens
    | ok settings =>
      simp only [hsettings] at hrest
      obtain ⟨report, rfl, hexecute⟩ := RunsLogging.of_map hrest
      have htransaction : call.transaction? =
          some (.of settings request.operation request.user request.group call.source) := by
        simp [transaction?, hopen, hrequest, hsettings]
      have hapart := fun hkeeps => helsewhere hkeeps _ htransaction
      obtain ⟨last, hplain, hcalm, hafter⟩ := Transaction.exists_runs_of_logging hsound hopens hapart hexecute
      exact .executed hopen hrequest hlevel htransaction rfl rfl (hopens.sound hsound) hcalm hplain
        (hopens.samePrimary hsound hapart) hafter
  · cases hrest
    exact .unlogged hopen hrequest hwhy hfiles

theorem course_of_run (hsound : s.world.files.Sound) (helsewhere : call.LogsElsewhere s.world.files place)
    (hruns : call.run.RunsLogging place none {} s tr outcome progress s') : call.Course place s tr outcome s' := by
  unfold run at hruns
  cases hopen : call.streamsOpen with
  | false =>
    rw [hopen] at hruns
    cases hruns
    exact .closed hopen
  | true =>
    rw [hopen] at hruns
    cases hrequest : Request.ofTexts call.words with
    | error why =>
      rw [hrequest] at hruns
      cases hruns
      exact .interrupted hopen hrequest
    | ok request =>
      rw [hrequest] at hruns
      exact course_of_carryOut hsound helsewhere hopen hrequest hruns

/-- How a command exits in a scene while its log may be kept in a file at a place. -/
structure Exits (call : Invocation) (place : Location) (s s' : Scene) (tr : Trace)
    (outcome : Except Failure Ending) : Prop where
  /-- It ends with a status, unless something escapes that nobody meets. -/
  ends : (∃ ending, outcome = .ok ending) ∨ ∃ failure, outcome = .error failure ∧ call.Escapes tr failure
  /-- A request is not carried out with a level of the log that is not known. -/
  level : ∀ request problem, call.streamsOpen = true → Request.ofTexts call.words = .ok request →
    Log.Level.ofName call.logOptions.level = .error problem → outcome = .error (.level problem)
  /-- The status of its own stands for streams that are not open, -/
  closed : EndsWith 2 outcome ↔ call.streamsOpen = false
  /-- and then nothing is asked, touched or printed. -/
  silent : call.streamsOpen = false → tr = [] ∧ s' = s ∧
    ∀ ending, outcome = .ok ending → ending.output = [] ∧ ending.errors = []
  success : EndsWith 0 outcome ↔ call.AsksForHelp ∨ Committed outcome
  failure : EndsWith 1 outcome ↔ (∃ ending, outcome = .ok ending) ∧ call.streamsOpen = true ∧
    ¬(call.AsksForHelp ∨ Committed outcome)
  /-- A transaction that is reported to be committed is one that installed its staging file. -/
  installed : Committed outcome ↔ tr.Installed
  /-- Words that are no request touch nothing. -/
  untouched : (∀ request, Request.ofTexts call.words ≠ .ok request) → tr = [] ∧ s' = s
  /-- Whatever does not commit leaves the primary file as it was; without a transaction at most the file of the log
      is opened. -/
  kept : ¬Committed outcome → call.transaction?.elim
    (s'.world.files = s.world.files ∨ ∃ log, call.logOptions.Opens place s.world.files log s'.world.files)
    fun t => s.world.files.SamePrimary t.settings.paths s'.world.files

theorem not_asksForHelp {request : Request} (hrequest : Request.ofTexts call.words = .ok request) :
    ¬call.AsksForHelp := by
  rintro ⟨-, hhelp⟩
  cases hrequest.symm.trans hhelp

namespace Course

theorem ends (hscript : call.source = .script) (hcourse : call.Course place s tr outcome s') :
    (∃ ending, outcome = .ok ending) ∨ ∃ failure, outcome = .error failure ∧ call.Escapes tr failure := by
  cases hcourse with
  | closed | interrupted | refused => exact .inl ⟨_, rfl⟩
  | unlogged _ _ hwhy =>
    obtain ⟨hkeeps, rfl⟩ | ⟨problem, rfl, hlevel⟩ := hwhy
    · exact .inr ⟨_, rfl, .logFile hkeeps (List.mem_singleton_self _)⟩
    · exact .inr ⟨_, rfl, .level hlevel⟩
  | @executed _ t _ _ _ _ _ _ _ _ _ _ htransaction hsource _ _ hcalm hruns =>
    obtain ⟨result, middle, _, first, hrun, rfl, rfl⟩ :=
      Transaction.of_execute Strikes.onFiles_foreign (Program.Runs.of_calm hcalm hruns)
    rcases result with failure | record
    · obtain (⟨error, rfl⟩ | ⟨rfl, hunencodable⟩) | ⟨hroot, htext⟩ := Transaction.expects_or_ofText_of_run
        (hsource.trans hscript) (fun e he => hcalm e (List.mem_append_left _ he)) hrun
      · exact .inl ⟨_, rfl⟩
      · exact .inr ⟨_, rfl, .unencodable htransaction hunencodable⟩
      · refine .inr ⟨failure, ?_, .unnamed htransaction hroot htext⟩
        rcases htext with rfl | rfl <;> rfl
    · exact .inl ⟨_, rfl⟩

theorem level {request : Request} {problem : Log.LevelProblem} (hopen : call.streamsOpen = true)
    (hrequest : Request.ofTexts call.words = .ok request)
    (hproblem : Log.Level.ofName call.logOptions.level = .error problem)
    (hcourse : call.Course place s tr outcome s') : outcome = .error (.level problem) := by
  cases hcourse with
  | closed hclosed => cases hclosed.symm.trans hopen
  | interrupted _ hwhy => cases hwhy.symm.trans hrequest
  | unlogged _ _ hwhy =>
    obtain ⟨hkeeps, -⟩ | ⟨_, rfl, hlevel⟩ := hwhy
    · obtain ⟨_, hlevel⟩ := call.logOptions.exists_level_of_keepsFile hkeeps
      cases hlevel.symm.trans hproblem
    · cases hlevel.symm.trans hproblem
      rfl
  | refused _ _ hlevel | executed _ _ hlevel =>
    obtain ⟨_, hlevel⟩ := hlevel
    cases hlevel.symm.trans hproblem

/-- The status of an ending, by whether the streams are open and whether there is success. -/
theorem status (hcourse : call.Course place s tr outcome s') :
    (∃ ending, outcome = .ok ending ∧
      (ending.exitStatus = 2 ∧ call.streamsOpen = false ∧ ¬(call.AsksForHelp ∨ Committed outcome) ∨
        ending.exitStatus = 0 ∧ call.streamsOpen = true ∧ (call.AsksForHelp ∨ Committed outcome) ∨
        ending.exitStatus = 1 ∧ call.streamsOpen = true ∧ ¬(call.AsksForHelp ∨ Committed outcome))) ∨
      ∃ failure, outcome = .error failure ∧ call.streamsOpen = true ∧
        ¬(call.AsksForHelp ∨ Committed outcome) := by
  cases hcourse with
  | closed hclosed =>
    refine .inl ⟨_, rfl, .inl ⟨rfl, hclosed, not_or.2 ⟨fun ⟨hopen, _⟩ => ?_, not_committed_of_ne (by simp)⟩⟩⟩
    cases hclosed.symm.trans hopen
  | @interrupted why hopen hrequest =>
    cases why with
    | help => exact .inl ⟨_, rfl, .inr (.inl ⟨rfl, hopen, .inl ⟨hopen, hrequest⟩⟩)⟩
    | misuse m =>
      refine .inl ⟨_, rfl, .inr (.inr ⟨rfl, hopen,
        not_or.2 ⟨fun ⟨_, hhelp⟩ => ?_, not_committed_of_ne (by simp)⟩⟩)⟩
      cases hrequest.symm.trans hhelp
  | unlogged hopen hrequest =>
    exact .inr ⟨_, rfl, hopen, not_or.2 ⟨not_asksForHelp hrequest, not_committed_error⟩⟩
  | refused hopen hrequest =>
    exact .inl ⟨_, rfl, .inr (.inr ⟨rfl, hopen,
      not_or.2 ⟨not_asksForHelp hrequest, not_committed_of_ne (by simp)⟩⟩)⟩
  | @executed _ t report _ _ _ _ _ _ hopen hrequest _ _ _ _ _ hcalm hruns =>
    have hhelp := not_asksForHelp hrequest
    obtain ⟨result, middle, _, first, -, rfl, -⟩ :=
      Transaction.of_execute Strikes.onFiles_foreign (Program.Runs.of_calm hcalm hruns)
    rw [committed_reported, or_iff_right hhelp]
    cases hreport : t.reportOf middle.phase result with
    | error failure => exact .inr ⟨failure, rfl, hopen, by simp [Transaction.Committed]⟩
    | ok report =>
      have hstatus := Transaction.exitStatus_of_reportOf hreport
      have hdone : Transaction.Committed (.ok report) ↔ report.isCommitted = true := by
        simp [Transaction.Committed]
      refine .inl ⟨_, rfl, .inr ?_⟩
      rw [hdone]
      by_cases hcommitted : report.isCommitted = true
      · exact .inl ⟨hstatus.trans (if_pos hcommitted), hopen, hcommitted⟩
      · exact .inr ⟨hstatus.trans (if_neg hcommitted), hopen, hcommitted⟩

/-- Each exit status stands for one combination of open streams and success. -/
theorem law (hcourse : call.Course place s tr outcome s') :
    (EndsWith 2 outcome ↔ call.streamsOpen = false) ∧
      (EndsWith 0 outcome ↔ call.AsksForHelp ∨ Committed outcome) ∧
      (EndsWith 1 outcome ↔ (∃ ending, outcome = .ok ending) ∧ call.streamsOpen = true ∧
        ¬(call.AsksForHelp ∨ Committed outcome)) := by
  have hstatus := hcourse.status
  generalize (call.AsksForHelp ∨ Committed outcome) = success at hstatus ⊢
  obtain ⟨ending, rfl, ⟨h, hopen, hdone⟩ | ⟨h, hopen, hdone⟩ | ⟨h, hopen, hdone⟩⟩ | ⟨_, rfl, hopen, hdone⟩ := hstatus
  · simp [h, hopen, hdone]
  · simp [h, hopen, hdone]
  · simp [h, hopen, hdone]
  · simp [hopen, hdone]

/-- What a course makes of the files: at most it opens the one of the log, or it does what a transaction does, which
    is atomic. -/
theorem effect (hcourse : call.Course place s tr outcome s') :
    ¬Committed outcome ∧ ¬tr.Installed ∧ (s'.world.files = s.world.files ∨
        call.transaction? = none ∧ ∃ log, call.logOptions.Opens place s.world.files log s'.world.files) ∨
      ∃ t, call.transaction? = some t ∧ (Committed outcome ↔ tr.Installed) ∧
        (¬Committed outcome → s.world.files.SamePrimary t.settings.paths s'.world.files) := by
  cases hcourse with
  | closed | interrupted =>
    exact .inl ⟨not_committed_of_ne (by simp), by simp [Trace.Installed], .inl rfl⟩
  | unlogged _ _ _ hfiles =>
    exact .inl ⟨not_committed_error, Trace.not_installed_singleton rfl, .inl hfiles⟩
  | refused _ _ _ htransaction hturn hopens =>
    exact .inl ⟨not_committed_of_ne (by simp), Trace.not_installed_singleton hturn, .inr ⟨htransaction, _, hopens⟩⟩
  | @executed _ t _ _ e _ s₁ _ _ _ _ _ htransaction _ hturn hsound hcalm hruns hbefore hafter =>
    refine .inr ⟨t, htransaction, ?_, fun hnot => ?_⟩
    · rw [committed_reported, t.committed_iff_installed hsound hruns, ← List.singleton_append,
        Trace.installed_append, or_iff_right (Trace.not_installed_singleton hturn)]
      rfl
    · rw [committed_reported] at hnot
      obtain ⟨hcontents, hentry⟩ := (t.primary_of_execute hsound hruns).2 hnot
      exact (hbefore.trans ⟨hcontents, hentry⟩).trans hafter

end Course

/-- A command whose prompts are answered by a script, and whose log is not kept in the primary file, exits by its law:
    with the status of its own where a stream is not open, with success where help is given or a transaction commits,
    and with a failure that leaves the store as it was in all other cases. Whatever escapes it leaves the store as it
    was too. -/
theorem exits_of_run (hscript : call.source = .script) (hsound : s.world.files.Sound)
    (helsewhere : call.LogsElsewhere s.world.files place)
    (hruns : call.run.RunsLogging place none {} s tr outcome progress s') : call.Exits place s s' tr outcome := by
  have hcourse := course_of_run hsound helsewhere hruns
  obtain ⟨hclosed, hsuccess, hfailure⟩ := hcourse.law
  refine
    { ends := hcourse.ends hscript
      level := fun _ _ hopen hrequest hproblem => hcourse.level hopen hrequest hproblem
      closed := hclosed, success := hsuccess, failure := hfailure
      silent := ?silent, installed := ?installed, untouched := ?untouched, kept := ?kept }
  case silent =>
    intro hshut
    cases hcourse with
    | closed => exact ⟨rfl, rfl, fun ending hending => by cases hending; exact ⟨rfl, rfl⟩⟩
    | _ hopen => cases hshut.symm.trans hopen
  case installed =>
    obtain ⟨hcommitted, hinstalled, -⟩ | ⟨_, -, hiff, -⟩ := hcourse.effect
    · exact iff_of_false hcommitted hinstalled
    · exact hiff
  case untouched =>
    intro hnone
    cases hcourse with
    | closed | interrupted => exact ⟨rfl, rfl⟩
    | _ _ hrequest => exact absurd hrequest (hnone _)
  case kept =>
    intro hnot
    obtain ⟨-, -, hfiles⟩ | ⟨t, htransaction, -, hkept⟩ := hcourse.effect
    · cases htransaction : call.transaction? with
      | none => exact hfiles.imp_right And.right
      | some t =>
        obtain hfiles | ⟨hnone, -⟩ := hfiles
        · rw [hfiles]
          exact ⟨rfl, rfl⟩
        · cases hnone.symm.trans htransaction
    · rw [htransaction]
      exact hkept hnot

/-- An addition by the superuser, with the answers of a script and a log in a file beside the store. -/
def sampleCommand : Invocation where
  words := [text "-a", text "bo"]
  machine := {}
  defaults := { serverRoot := text "/srv", logLevel := text "info", logFile := some (text "/srv/log") }
  source := .script

/-- What an event adds to the file of a log that keeps entries from a level on. It is the epoch all along, and no
    transaction has a name. -/
def sampleLine (level : Log.Level) (event : Log.Event) : Bytes :=
  let setup : Log.Setup := { level, handlers := [.file .structured] }
  (setup.written (event.line 0 [])).flatMap fun entry => (entry.2 ++ text "\n").flatMap CodePoint.utf8

/-- A command in a directory without a store, with a log that keeps entries from a level on: its calls, its outcome
    and what it leaves. -/
def sampleRun (call : Invocation) (place : Location) (level : Log.Level) :
    Trace × (Except Failure Ending × Transaction.Progress) × Scene :=
  (call.run {}).serve place (sampleLine level) none emptyScene

theorem runs_sampleRun (call : Invocation) (place : Location) (level : Log.Level) :
    call.run.RunsLogging place none {} emptyScene (call.sampleRun place level).1
      (call.sampleRun place level).2.1.1 (call.sampleRun place level).2.1.2 (call.sampleRun place level).2.2 :=
  Program.runsLogging_serve place (sampleLine level) none emptyScene (call.run {})

/-- The addition succeeds in a directory without a store, and its log is in its file then. -/
theorem sampleCommand_exits : ∃ place tr outcome progress s',
    sampleCommand.LogsElsewhere emptyScene.world.files place ∧
      sampleCommand.run.RunsLogging place none {} emptyScene tr outcome progress s' ∧
      sampleCommand.Exits place emptyScene s' tr outcome ∧ EndsWith 0 outcome ∧ tr.Installed ∧
      (s'.world.files.contents? (text "/srv/log")).getD [] ≠ [] := by
  let place : Location := [[0x73, 0x72, 0x76], [0x6C, 0x6F, 0x67]]
  have helsewhere : sampleCommand.LogsElsewhere emptyScene.world.files place := by
    intro hkeeps t htransaction directory hlead
    refine ⟨fun hplace => ?_, fun id hid => ?_⟩
    · have hlast := congrArg List.getLast? hplace
      simp [place, StorePaths.primaryAt, StorePaths.primaryOctets] at hlast
    · cases hid
  have hruns := sampleCommand.runs_sampleRun place .info
  have hcommitted : Committed (sampleCommand.sampleRun place .info).2.1.1 := by decide +kernel
  have hlogged : ((sampleCommand.sampleRun place .info).2.2.world.files.contents? (text "/srv/log")).getD [] ≠ [] := by
    decide +kernel
  generalize sampleCommand.sampleRun place .info = result at *
  obtain ⟨tr, ⟨outcome, progress⟩, s'⟩ := result
  have hexits := exits_of_run rfl sound_emptyScene helsewhere hruns
  exact ⟨place, tr, outcome, progress, s', helsewhere, hruns, hexits, hexits.success.2 (.inr hcommitted),
    hexits.installed.1 hcommitted, hlogged⟩

/-- An addition for a name of a letter and a surrogate that stands for an octet, as a word of a command line
    holds it that is no text in UTF-8. -/
def surrogateCommand : Invocation where
  words := [text "-a", [CodePoint.ofChar 'd', 0xDC80]]
  machine := {}
  defaults := { serverRoot := text "/srv" }
  source := .script

/-- The addition has no exit status: what escapes its transaction escapes the command. -/
theorem surrogate_word_escapes : ∃ place tr progress s',
    surrogateCommand.source = .script ∧ surrogateCommand.streamsOpen = true ∧
      surrogateCommand.logOptions.keepsFile = false ∧
      surrogateCommand.run.RunsLogging place none {} emptyScene tr (.error .unencodable) progress s' ∧ tr.Calm ∧
      ∀ status, ¬EndsWith status (.error .unencodable) := by
  have hruns := surrogateCommand.runs_sampleRun [] .warning
  have houtcome : (surrogateCommand.sampleRun [] .warning).2.1.1 = .error .unencodable := by decide +kernel
  have hcalm : Trace.Calm (surrogateCommand.sampleRun [] .warning).1 := by decide +kernel
  generalize surrogateCommand.sampleRun [] .warning = result at *
  obtain ⟨tr, ⟨outcome, progress⟩, s'⟩ := result
  cases houtcome
  exact ⟨[], tr, progress, s', rfl, rfl, by decide +kernel, hruns, hcalm, fun _ => not_endsWith_error⟩

/-- A deletion that its caller is not privileged to, with a log in the place of the primary file. -/
def misplacedCommand : Invocation where
  words := [text "-x", text "bo"]
  machine := { uid := 1000 }
  defaults := { serverRoot := text "/srv", logFile := some (text "/srv/passwd.md5") }
  source := .script

/-- The log has to be kept elsewhere: the deletion is refused, and what is logged of this becomes the primary file. -/
theorem misplacedCommand_changes_primary : ∃ place tr outcome progress s',
    misplacedCommand.run.RunsLogging place none {} emptyScene tr outcome progress s' ∧ EndsWith 1 outcome ∧
      emptyScene.world.files.contents? (StorePaths.locate (text "/srv")).primary = none ∧
      (s'.world.files.contents? (StorePaths.locate (text "/srv")).primary).getD [] ≠ [] := by
  let place : Location := StorePaths.primaryAt [[0x73, 0x72, 0x76]]
  have hruns := misplacedCommand.runs_sampleRun place .warning
  have hends : EndsWith 1 (misplacedCommand.sampleRun place .warning).2.1.1 := by decide +kernel
  have hlogged : ((misplacedCommand.sampleRun place .warning).2.2.world.files.contents?
      (StorePaths.locate (text "/srv")).primary).getD [] ≠ [] := by
    decide +kernel
  generalize misplacedCommand.sampleRun place .warning = result at *
  obtain ⟨tr, ⟨outcome, progress⟩, s'⟩ := result
  exact ⟨place, tr, outcome, progress, s', hruns, hends, rfl, hlogged⟩

/-- A level of the log that is not known escapes too. -/
example :
    let call : Invocation := { sampleCommand with defaults := { logLevel := text "loud" } }
    (emptyScene.run {} call.run).1.1 = .error (.level .unknown) := by
  decide +kernel

end Invocation

end CommandLine

end CredentialStore
