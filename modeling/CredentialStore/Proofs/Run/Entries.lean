import CredentialStore.Proofs.Run.Steps

namespace CredentialStore

/-- The audit event that a call writes to the log. -/
def Call.audit? : Call → Option Log.AuditEvent
  | log (.audit event) => some event
  | _ => none

/-- The audit event of an entry. -/
def LogEntry.audit? (entry : LogEntry) : Option Log.AuditEvent :=
  match entry.event with
  | .audit event => some event
  | _ => none

/-- The audit events that the calls of a trace write, in order. -/
def Trace.audited (tr : Trace) : List Log.AuditEvent := tr.filterMap fun e => e.call.audit?

namespace Trace

@[simp] theorem audited_append (tr rest : Trace) : audited (tr ++ rest) = tr.audited ++ rest.audited :=
  List.filterMap_append

theorem audited_cons (e : Event) (tr : Trace) : audited (e :: tr) = e.call.audit?.toList ++ tr.audited := by
  unfold audited
  cases haudit : e.call.audit? <;> simp [haudit]

theorem audited_eq_nil {tr : Trace} (hsilent : ∀ e ∈ tr, e.call.audit? = none) : tr.audited = [] :=
  List.filterMap_eq_nil_iff.2 hsilent

end Trace

/-- Audit events are of interest to every log that keeps information. -/
theorem Log.AuditEvent.info_le_level (event : AuditEvent) : Level.info ≤ event.level := by
  have hlevel : event.level = Level.info ∨ event.level = Level.warning ∨ event.level = Level.error ∨
      event.level = Level.critical := by
    cases event with
    | started | committed => exact .inl rfl
    | malformedRecord => exact .inr (.inl rfl)
    | aborted =>
      simp only [level]
      split
      · exact .inr (.inl rfl)
      · exact .inl rfl
    | security event severity details =>
      simp only [level, severityLevel]
      repeat' split
      all_goals simp
  rcases hlevel with hlevel | hlevel | hlevel | hlevel <;> rw [hlevel] <;> decide

/-- Whether the log of a world goes on in another one: these entries came to it, filed under the same
    transaction, and the same levels are kept. -/
structure World.Logs (w w' : World) (added : List LogEntry) : Prop where
  threshold : w'.threshold = w.threshold
  transaction : w'.transaction = w.transaction
  entries : w'.entries = w.entries ++ added
  filed : ∀ entry ∈ added, entry.transaction = w.transaction

namespace World.Logs

variable {w w' w'' : World} {added added' : List LogEntry}

theorem refl (w : World) : w.Logs w [] := ⟨rfl, rfl, (List.append_nil _).symm, by simp⟩

theorem of_files (w : World) (files : FileSystem) : w.Logs { w with files } [] :=
  ⟨rfl, rfl, (List.append_nil _).symm, by simp⟩

theorem of_changing (w : World) (call : Except Failure FileSystem) : w.Logs (w.changing call).2 [] := by
  cases call with
  | ok files => exact of_files w files
  | error => exact refl w

theorem trans (hfirst : w.Logs w' added) (hrest : w'.Logs w'' added') : w.Logs w'' (added ++ added') where
  threshold := hrest.threshold.trans hfirst.threshold
  transaction := hrest.transaction.trans hfirst.transaction
  entries := by rw [hrest.entries, hfirst.entries, List.append_assoc]
  filed := by
    intro entry hentry
    rcases List.mem_append.1 hentry with hentry | hentry
    · exact hfirst.filed entry hentry
    · exact (hrest.filed entry hentry).trans hfirst.transaction

/-- An entry is filed if its level is kept; the log must keep the levels of audit events. -/
theorem of_record {level : Log.Level} (hlevel : w.threshold = some level) (event : Log.Event)
    (hkeeps : ∀ audit ∈ (Call.log event).audit?, level ≤ audit.level) : ∃ added, w.Logs (w.record event) added ∧
      added.filterMap LogEntry.audit? = (Call.log event).audit?.toList := by
  by_cases hkept : level ≤ event.level
  · refine ⟨[⟨w.transaction, event⟩], ⟨?_, ?_, ?_, by simp⟩, ?_⟩
    all_goals try simp only [record, hlevel, if_pos hkept]
    cases event <;> rfl
  · refine ⟨[], ⟨?_, ?_, ?_, by simp⟩, ?_⟩
    all_goals try simp only [record, hlevel, if_neg hkept, List.append_nil]
    cases event with
    | audit event => exact absurd (hkeeps event rfl) hkept
    | _ => rfl

end World.Logs

namespace Scene

variable {s s' : Scene} {level : Log.Level}

/-- A call writes its audit event to the log, if it has one, and no other. -/
theorem Answers.logs {e : Event} (hanswer : Answers .foreign s e s') (hbegins : e.call ≠ .beginTransaction)
    (hlevel : s.world.threshold = some level) (hkeeps : ∀ audit ∈ e.call.audit?, level ≤ audit.level) :
    ∃ added, s.world.Logs s'.world added ∧ added.filterMap LogEntry.audit? = e.call.audit?.toList := by
  cases hanswer with
  | @struck c failure hstrikes =>
    refine ⟨[], .refl _, ?_⟩
    cases c with
    | log event => cases hstrikes.1
    | _ => rfl
  | performed c =>
    cases c with
    | log event => exact World.Logs.of_record hlevel event hkeeps
    | beginTransaction => exact absurd rfl hbegins
    | createStaging | openPrimary =>
      simp only [perform, World.answer]
      split
      · exact ⟨[], .of_files _ _, rfl⟩
      · exact ⟨[], .refl _, rfl⟩
    | setUpLog =>
      simp only [perform, World.answer]
      split
      · exact ⟨[], ⟨rfl, rfl, (List.append_nil _).symm, by simp⟩, rfl⟩
      · exact ⟨[], .refl _, rfl⟩
    | unlinkStaging | unlinkBackup | linkBackup | copyBackup | install =>
      exact ⟨[], .of_changing _ _, rfl⟩
    | write => exact ⟨[], .of_files _ _, rfl⟩
    | _ => exact ⟨[], .refl _, rfl⟩

/-- The audit events that come to the log are those that the calls write. -/
theorem Steps.logs {tr : Trace} (hsteps : s.Steps .foreign tr s')
    (hbegins : ∀ e ∈ tr, e.call ≠ .beginTransaction) (hlevel : s.world.threshold = some level)
    (hkeeps : ∀ audit ∈ tr.audited, level ≤ audit.level) :
    ∃ added, s.world.Logs s'.world added ∧ added.filterMap LogEntry.audit? = tr.audited := by
  induction hsteps with
  | nil => exact ⟨[], .refl _, rfl⟩
  | cons hanswer hrest ih =>
    simp only [Trace.audited_cons, List.mem_append, Option.mem_toList] at hkeeps
    obtain ⟨first, hfirst, haudit⟩ := hanswer.logs (hbegins _ List.mem_cons_self) hlevel
      fun audit haudit => hkeeps audit (.inl haudit)
    obtain ⟨rest, hrest, haudits⟩ := ih (fun e he => hbegins e (List.mem_cons_of_mem _ he))
      (hfirst.threshold.trans hlevel) fun audit haudit => hkeeps audit (.inr haudit)
    refine ⟨first ++ rest, hfirst.trans hrest, ?_⟩
    rw [List.filterMap_append, haudit, haudits, Trace.audited_cons]

/-- Entries that come after a transaction was begun are filed under its name. -/
theorem Steps.entries_of_begun {rest : Trace}
    (hsteps : s.Steps .foreign (⟨.beginTransaction, .ok (), false⟩ :: rest) s')
    (hbegins : ∀ e ∈ rest, e.call ≠ .beginTransaction) (hlevel : s.world.threshold = some level)
    (hinfo : level ≤ Log.Level.info) :
    ∃ added, s'.world.entries = s.world.entries ++ added ∧
      (∀ entry ∈ added, entry.transaction = Log.TransactionId.fresh s.world.drawn) ∧
      added.filterMap LogEntry.audit? = rest.audited := by
  obtain ⟨s₁, hbegun, hrest⟩ := hsteps.of_cons
  have hworld : s₁.world = s.world.beginTransaction := by
    obtain ⟨-, -, rfl⟩ | ⟨_, hstruck, -⟩ := hbegun.performed_or_struck
    · rfl
    · cases hstruck
  have hkept : s₁.world.threshold = some level := by simpa only [hworld, World.beginTransaction] using hlevel
  obtain ⟨added, hlogs, haudits⟩ := hrest.logs hbegins hkept fun audit _ =>
    Int.le_trans hinfo audit.info_le_level
  refine ⟨added, ?_, ?_, haudits⟩
  · simpa only [hworld, World.beginTransaction] using hlogs.entries
  · simpa only [hworld, World.beginTransaction] using hlogs.filed

end Scene

namespace Action

variable {σ τ α β : Type} {trail : List Log.AuditEvent → Prop}

/-- Whether the audit events of an action are as stated, whatever happens to its calls. -/
def Audits (trail : List Log.AuditEvent → Prop) (action : Action σ α) : Prop :=
  ∀ ⦃strikes : Strikes⦄ ⦃state state' : σ⦄ ⦃s s' : Scene⦄ ⦃tr : Trace⦄ ⦃outcome : Except Failure α⦄,
    action.Runs strikes state s tr outcome state' s' → trail tr.audited

/-- Whether an action writes no audit event. -/
def Silent (action : Action σ α) : Prop := action.Uses (·.audit? = none)

theorem Silent.audited {action : Action σ α} (hsilent : action.Silent) {strikes : Strikes}
    {state state' : σ} {s s' : Scene} {tr : Trace} {outcome : Except Failure α}
    (hruns : action.Runs strikes state s tr outcome state' s') : tr.audited = [] :=
  Trace.audited_eq_nil (hruns.calls hsilent)

theorem audits_of_silent {action : Action σ α} (hsilent : action.Silent) (htrail : trail []) :
    action.Audits trail := by
  intro strikes state state' s s' tr outcome hruns
  rwa [hsilent.audited hruns]

/-- What comes before and is silent does not count. -/
theorem audits_bind {first : Action σ α} {next : α → Action σ β} (hfirst : first.Silent)
    (hnext : ∀ value, (next value).Audits trail) (htrail : trail []) : (first >>= next).Audits trail := by
  intro strikes state state' s s' tr outcome hruns
  obtain ⟨value, _, _, tr₁, tr₂, rfl, hbegin, hrest⟩ | ⟨failure, -, hbegin⟩ := hruns.of_bind
  · rw [Trace.audited_append, hfirst.audited hbegin, List.nil_append]
    exact hnext value hrest
  · rwa [hfirst.audited hbegin]

/-- What comes after and is silent does not count. -/
theorem audits_bind_silent {first : Action σ α} {next : α → Action σ β} (hfirst : first.Audits trail)
    (hnext : ∀ value, (next value).Silent) : (first >>= next).Audits trail := by
  intro strikes state state' s s' tr outcome hruns
  obtain ⟨value, _, _, tr₁, tr₂, rfl, hbegin, hrest⟩ | ⟨failure, -, hbegin⟩ := hruns.of_bind
  · rw [Trace.audited_append, (hnext value).audited hrest, List.append_nil]
    exact hfirst hbegin
  · exact hfirst hbegin

theorem audits_attempt {action : Action σ α} (haudits : action.Audits trail) :
    (attempt action).Audits trail := by
  intro strikes state state' s s' tr outcome hruns
  obtain ⟨_, -, haction⟩ := Runs.of_attempt hruns
  exact haudits haction

theorem audits_onSystemError {action : Action σ α} {handler : SystemError → Action σ α}
    (haudits : action.Audits trail) (hhandler : ∀ cause, (handler cause).Silent) :
    (action.onSystemError handler).Audits trail := by
  refine audits_bind_silent (audits_attempt haudits) fun outcome => ?_
  split
  · exact uses_pure _
  · exact hhandler _
  · exact uses_throw _

theorem audits_thenAlways {action : Action σ α} {last : Action σ Unit} (haudits : action.Audits trail)
    (hlast : last.Silent) : (action.thenAlways last).Audits trail := by
  refine audits_bind_silent (audits_attempt haudits) fun outcome => ?_
  split
  · exact uses_bind hlast fun _ => uses_pure _
  · exact uses_bind hlast fun _ => uses_throw _

theorem audits_orCleanUp {action : Action σ α} {cleanUp : Action σ Unit} (haudits : action.Audits trail)
    (hclean : cleanUp.Silent) : (action.orCleanUp cleanUp).Audits trail := by
  refine audits_bind_silent (audits_attempt haudits) fun outcome => ?_
  split
  · exact uses_pure _
  · exact uses_bind hclean fun _ => uses_throw _

theorem audits_onPart {part : σ → τ} {replace : σ → τ → σ} {action : Action τ α}
    (haudits : action.Audits trail) : (action.onPart part replace).Audits trail := by
  intro strikes state state' s s' tr outcome hruns
  obtain ⟨_, -, haction⟩ := Runs.of_onPart hruns
  exact haudits haction

end Action

end CredentialStore
