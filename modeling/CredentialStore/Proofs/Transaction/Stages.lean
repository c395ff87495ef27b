import CredentialStore.Proofs.Store.Syncing
import CredentialStore.Proofs.Transaction.Telling

namespace CredentialStore

open CredentialStore.Action

/-- What an outcome becomes when its failure is cleaned up after: the failure, or one that is worse. -/
def worst {α β : Type} (failure : Failure) : Except Failure α → Except Failure β
  | .ok _ => .error failure
  | .error worse => .error worse

/-- Whether a call is made on the paths of a store that it is made for, or adds an entry to the log. -/
def StorePaths.Serves (paths : StorePaths) : Call → Prop
  | .createStaging path _ | .unlinkStaging path => path = paths.staging
  | .openPrimary path => path = paths.primary
  | .unlinkBackup path => path = paths.backup
  | .linkBackup primary backup | .copyBackup primary backup => primary = paths.primary ∧ backup = paths.backup
  | .install staging primary => staging = paths.staging ∧ primary = paths.primary
  | .nextAnswer _ | .readTerminal _ | .beginTransaction | .setUpLog _ => False
  | _ => True

/-- Whether the staging file was installed. -/
def Trace.Installed (tr : Trace) : Prop := ∃ e ∈ tr, e.turn? = some .installed

theorem Trace.installed_append {tr rest : Trace} :
    Installed (tr ++ rest) ↔ tr.Installed ∨ rest.Installed := by
  simp only [Installed, List.mem_append, or_and_right, exists_or]

theorem Trace.not_installed_singleton {e : Event} (hturn : e.turn? = none) : ¬Trace.Installed [e] := by
  rintro ⟨_, he, hinstalls⟩
  cases List.mem_singleton.1 he
  cases hturn.symm.trans hinstalls

theorem Trace.not_installed_of_calls {tr : Trace} (allowed : Call → Prop) (hcalls : ∀ e ∈ tr, allowed e.call)
    (hnever : ∀ staging primary, ¬allowed (.install staging primary)) : ¬tr.Installed := by
  rintro ⟨⟨c, answer, struck⟩, he, hturn⟩
  cases c with
  | install staging primary => exact hnever staging primary (hcalls _ he)
  | _ => cases answer <;> cases hturn

namespace Commit

variable {σ : Type} {paths : StorePaths} {state state' : σ} {s s' : Scene} {tr : Trace}

/-- A commit takes its steps and notes it, or it fails at one of them and removes the staging file. -/
theorem of_commit {outcome : Except Failure Unit}
    (hruns : (commit paths : Action σ Unit).Runs .foreign state s tr outcome state' s') :
    (∃ backedUp s₁ first, outcome = .ok () ∧ (steps paths).Runs .foreign state s first (.ok backedUp) state' s₁ ∧
      tr = first ++ [⟨.log (.installed paths.primary backedUp), .ok (), false⟩]) ∨
    ∃ failure result middle s₁ first rest, outcome = worst failure result ∧ tr = first ++ rest ∧
      (steps paths).Runs .foreign state s first (.error failure) middle s₁ ∧
      (discard paths.staging).Runs .foreign middle s₁ rest result state' s' := by
  have hfailed : ∀ {failure s' tr} {state' : σ}, ((steps paths).orCleanUp (discard paths.staging)).Runs
      .foreign state s tr (.error failure) state' s' →
      ∃ reason result middle s₁ first rest, (.error failure : Except Failure Unit) = worst reason result ∧
        tr = first ++ rest ∧ (steps paths).Runs .foreign state s first (.error reason) middle s₁ ∧
        (discard paths.staging).Runs .foreign middle s₁ rest result state' s' := by
    intro failure s' tr state' hsteps
    obtain ⟨_, hok, -⟩ | ⟨reason, middle, s₁, first, rest, rfl, hsteps, hdiscard⟩ := Runs.of_orCleanUp hsteps
    · cases hok
    · obtain ⟨herror, hdiscard⟩ | ⟨worse, herror, hdiscard⟩ := hdiscard
      · cases herror
        exact ⟨_, .ok (), middle, s₁, first, rest, rfl, rfl, hsteps, hdiscard⟩
      · cases herror
        exact ⟨reason, .error _, middle, s₁, first, rest, rfl, rfl, hsteps, hdiscard⟩
  obtain ⟨backedUp, middle, s₁, first, rest, rfl, hsteps, hnote⟩ | ⟨failure, rfl, hsteps⟩ := hruns.of_bind
  · obtain ⟨rfl, rfl, rfl⟩ := Runs.of_note Strikes.onFiles_foreign hnote
    obtain ⟨_, hok, hsteps⟩ | ⟨_, _, _, _, _, -, -, ⟨herror, -⟩ | ⟨_, herror, -⟩⟩ := Runs.of_orCleanUp hsteps
    · cases hok
      exact .inl ⟨backedUp, s₁, first, rfl, hsteps, rfl⟩
    · cases herror
    · cases herror
  · exact .inr (hfailed hsteps)

theorem installed_of_installStaging {outcome : Except Failure Unit}
    (hruns : (installStaging paths : Action σ Unit).Runs .foreign state s tr outcome state' s') :
    outcome = .ok () ↔ tr.Installed := by
  have hturn : ∀ {answer : Except Failure Unit} {struck : Bool},
      Trace.Installed [⟨.install paths.staging paths.primary, answer, struck⟩] ↔ answer = .ok () := by
    intro answer struck
    cases answer <;> simp [Trace.Installed, Event.turn?]
  obtain ⟨value, rfl, hask⟩ | ⟨failure, -, rfl, hask⟩ | ⟨cause, _, _, tr₁, tr₂, rfl, hask, hthrow⟩ :=
    Runs.of_onSystemError hruns
  · obtain ⟨-, struck, rfl, -⟩ := Runs.of_ask hask
    exact ⟨fun _ => hturn.2 rfl, fun _ => rfl⟩
  · obtain ⟨-, struck, rfl, -⟩ := Runs.of_ask hask
    exact hturn.symm
  · obtain ⟨-, struck, rfl, -⟩ := Runs.of_ask hask
    obtain ⟨rfl, rfl, -⟩ := Runs.of_throw hthrow
    rw [List.append_nil, hturn]
    exact ⟨fun h => (by cases h), fun h => (by cases h)⟩

/-- The steps succeed exactly where the staging file is installed, which is the last of them. -/
theorem installed_of_steps {outcome : Except Failure Bool}
    (hruns : (steps paths : Action σ Bool).Runs .foreign state s tr outcome state' s') :
    (∃ backedUp, outcome = .ok backedUp) ↔ tr.Installed := by
  have hkeeps : ∀ {tr : Trace}, (∀ e ∈ tr, BacksUp paths e.call) → ¬tr.Installed :=
    fun hbacks => Trace.not_installed_of_calls _ hbacks fun _ _ h => h
  have hfailed : ∀ {failure : Failure} {tr : Trace}, ¬tr.Installed →
      ((∃ backedUp : Bool, (Except.error failure : Except Failure Bool) = .ok backedUp) ↔ tr.Installed) := by
    intro failure tr hidle
    exact ⟨fun ⟨_, hok⟩ => (by cases hok), fun hinstalled => absurd hinstalled hidle⟩
  obtain ⟨_, _, _, tr₁, rest, rfl, hremove, hrest⟩ | ⟨failure, rfl, hremove⟩ := hruns.of_bind
  · have hremoved := hkeeps (hremove.calls uses_removeBackup)
    rw [Trace.installed_append, or_iff_right hremoved]
    obtain ⟨backedUp, _, _, tr₂, last, rfl, hback, hlast⟩ | ⟨failure, rfl, hback⟩ := Runs.of_bind hrest
    · have hbacked := hkeeps (hback.calls uses_backUpPrimary)
      rw [Trace.installed_append, or_iff_right hbacked]
      obtain ⟨_, _, _, tr₃, _, rfl, hinstall, hpure⟩ | ⟨failure, rfl, hinstall⟩ := Runs.of_bind hlast
      · obtain ⟨rfl, rfl, -⟩ := Runs.of_pure hpure
        rw [List.append_nil]
        exact ⟨fun _ => (installed_of_installStaging hinstall).1 rfl, fun _ => ⟨backedUp, rfl⟩⟩
      · refine hfailed fun hinstalled => ?_
        cases (installed_of_installStaging hinstall).2 hinstalled
    · exact hfailed (hkeeps (hback.calls uses_backUpPrimary))
  · exact hfailed (hkeeps (hremove.calls uses_removeBackup))

/-- A commit succeeds exactly where the staging file is installed. -/
theorem installed_of_commit {outcome : Except Failure Unit}
    (hruns : (commit paths : Action σ Unit).Runs .foreign state s tr outcome state' s') :
    outcome = .ok () ↔ tr.Installed := by
  obtain ⟨backedUp, _, first, rfl, hsteps, rfl⟩ | ⟨_, result, _, _, first, rest, rfl, rfl, hsteps, hdiscard⟩ :=
    of_commit hruns
  · have hinstalled := (installed_of_steps hsteps).1 ⟨backedUp, rfl⟩
    exact ⟨fun _ => Trace.installed_append.2 (.inl hinstalled), fun _ => rfl⟩
  · refine ⟨fun hok => (by cases result <;> cases hok), fun hinstalled => ?_⟩
    obtain hinstalled | hinstalled := Trace.installed_append.1 hinstalled
    · obtain ⟨_, hok⟩ := (installed_of_steps hsteps).2 hinstalled
      cases hok
    · exact absurd hinstalled (Trace.not_installed_of_calls _ (hdiscard.calls (uses_discard _)) fun _ _ h => h)

end Commit

namespace Transaction

open Rewrite

variable {t : Transaction} {secrets : Secrets} {state state' : Progress} {s s' : Scene} {tr : Trace}

/-- A run that applies a transaction, by the stages that it came to. -/
inductive Stages (t : Transaction) (secrets : Secrets) (state : Progress) (s : Scene) :
    Trace → Except Failure (Option Record) → Progress → Scene → Prop
  /-- The store was not acquired. -/
  | ungated {failure : Failure} {rewrite : Rewrite.State} {s' : Scene} {tr : Trace}
      (hacquire : t.rewrite.acquire.Runs .foreign {} s tr (.error failure) rewrite s') :
      Stages t secrets state s tr (.error failure) { state with rewrite } s'
  /-- The staging file was not prepared, and was given up. -/
  | unprepared {failure : Failure} {rewrite rewrite' : Rewrite.State} {middle : Progress}
      {s₁ s₂ s' : Scene} {gate work clean : Trace} {result : Except Failure Unit}
      (hacquire : t.rewrite.acquire.Runs .foreign {} s gate (.ok ()) rewrite s₁)
      (hprepare : (t.prepare secrets).Runs .foreign ⟨.gated, rewrite⟩ s₁ work (.error failure) middle s₂)
      (hdiscard : t.rewrite.discard.Runs .foreign middle.rewrite s₂ clean result rewrite' s') :
      Stages t secrets state s (gate ++ (work ++ clean)) (worst failure result)
        { middle with rewrite := rewrite' } s'
  /-- The staging file was prepared and not committed. -/
  | uncommitted {failure : Failure} {rewrite : Rewrite.State} {middle state' : Progress}
      {s₁ s₂ s' : Scene} {gate work last : Trace} {record : Option Record}
      (hacquire : t.rewrite.acquire.Runs .foreign {} s gate (.ok ()) rewrite s₁)
      (hprepare : (t.prepare secrets).Runs .foreign ⟨.gated, rewrite⟩ s₁ work (.ok record) middle s₂)
      (hcommit : (Commit.commit t.settings.paths).Runs .foreign
        { middle with rewrite := { middle.rewrite with owned := false } } s₂ last (.error failure) state' s') :
      Stages t secrets state s (gate ++ (work ++ last)) (.error failure) state' s'
  | committed {rewrite : Rewrite.State} {middle state' : Progress} {s₁ s₂ s' : Scene}
      {gate work last : Trace} {record : Option Record}
      (hacquire : t.rewrite.acquire.Runs .foreign {} s gate (.ok ()) rewrite s₁)
      (hprepare : (t.prepare secrets).Runs .foreign ⟨.gated, rewrite⟩ s₁ work (.ok record) middle s₂)
      (hcommit : (Commit.commit t.settings.paths).Runs .foreign
        { middle with rewrite := { middle.rewrite with owned := false } } s₂ last (.ok ()) state' s') :
      Stages t secrets state s (gate ++ (work ++ last)) (.ok record) { state' with phase := .committed } s'

/-- Applying a transaction goes through its stages. -/
theorem stages_of_apply {outcome : Except Failure (Option Record)}
    (hruns : (t.apply secrets).Runs .foreign state s tr outcome state' s') :
    t.Stages secrets state s tr outcome state' s' := by
  obtain ⟨_, _, s₁, gate, rest, rfl, hgate, hheld⟩ | ⟨failure, rfl, hgate⟩ :=
    (Runs.of_modify_bind hruns).of_bind
  · obtain ⟨rewrite, rfl, hacquire⟩ := Runs.of_onPart hgate
    obtain ⟨record, middle, s₂, work, last, rfl, hwork, hready⟩ | ⟨failure, rfl, hwork⟩ :=
      (Runs.of_modify_bind hheld).of_bind
    · obtain ⟨_, hok, hprepare⟩ | ⟨_, _, _, _, _, -, -, ⟨herror, -⟩ | ⟨_, herror, -⟩⟩ :=
        Runs.of_orCleanUp hwork
      · cases hok
        have hreleased : Action.Runs .foreign (do
            Commit.commit t.settings.paths
            enter .committed
            pure record) { middle with rewrite := { middle.rewrite with owned := false } } s₂ last outcome
              state' s' := hready
        obtain ⟨_, _, _, first, _, rfl, hcommit, hlast⟩ | ⟨failure, rfl, hcommit⟩ := hreleased.of_bind
        · have hentered := Runs.of_modify_bind hlast
          obtain ⟨rfl, rfl, rfl, rfl⟩ := Runs.of_pure hentered
          rw [List.append_nil]
          exact .committed hacquire hprepare hcommit
        · exact .uncommitted hacquire hprepare hcommit
      · cases herror
      · cases herror
    · obtain ⟨_, hok, -⟩ | ⟨reason, middle, s₂, work, clean, rfl, hprepare, hclean⟩ :=
        Runs.of_orCleanUp hwork
      · cases hok
      · obtain ⟨herror, hgiven⟩ | ⟨worse, herror, hgiven⟩ := hclean
        · cases herror
          obtain ⟨rewrite', rfl, hdiscard⟩ := Runs.of_onPart hgiven
          exact .unprepared hacquire hprepare hdiscard
        · cases herror
          obtain ⟨rewrite', rfl, hdiscard⟩ := Runs.of_onPart hgiven
          exact .unprepared hacquire hprepare hdiscard
  · obtain ⟨rewrite, rfl, hacquire⟩ := Runs.of_onPart hgate
    exact .ungated hacquire

theorem uses_check {α : Type} {allowed : Call → Prop} (outcome : Except Failure α) :
    (check outcome).Uses allowed := by
  cases outcome <;> exact fun _ => trivial

theorem uses_conclude (seen : Summary) (record : Option Record) {allowed : Call → Prop}
    (hcloses : ∀ c, t.rewrite.Closes c → allowed c)
    (hnote : allowed (.log (.replacedExisting t.identity t.realm))) :
    (t.conclude seen record).Uses allowed := by
  have hvalidate : (t.validate record).Uses allowed :=
    uses_bind (uses_onPart (uses_close.mono hcloses)) fun _ => uses_bind (uses_modify _) fun _ => uses_pure _
  unfold conclude
  split
  · exact uses_bind (uses_ask hnote) fun _ => hvalidate
  · exact hvalidate

theorem uses_complete (seen : Summary) (record : Option Record) {allowed : Call → Prop}
    (hwrites : ∀ c, Call.Writes c → allowed c) (hcloses : ∀ c, t.rewrite.Closes c → allowed c)
    (hnote : allowed (.log (.replacedExisting t.identity t.realm))) :
    (t.complete seen record).Uses allowed := by
  have hconclude := uses_conclude seen record hcloses hnote
  rw [complete_eq]
  cases record with
  | none => exact hconclude
  | some record => exact uses_bind (uses_onPart ((uses_append record).mono hwrites)) fun _ => hconclude

/-- What is done once the lines are copied writes and closes the staging file. -/
theorem uses_finish (seen : Summary) {allowed : Call → Prop} (hwrites : ∀ c, Call.Writes c → allowed c)
    (hcloses : ∀ c, t.rewrite.Closes c → allowed c)
    (hnote : allowed (.log (.replacedExisting t.identity t.realm))) : (t.finish secrets seen).Uses allowed :=
  uses_bind (uses_modify _) fun _ => uses_bind (uses_check _) fun _ => uses_bind (uses_check _) fun record =>
    uses_complete seen record hwrites hcloses hnote

theorem uses_prepare {allowed : Call → Prop} (hmerges : ∀ c, t.rewrite.Merges c → allowed c)
    (hcloses : ∀ c, t.rewrite.Closes c → allowed c)
    (hnote : allowed (.log (.replacedExisting t.identity t.realm))) : (t.prepare secrets).Uses allowed := by
  rw [prepare_eq]
  refine uses_bind (uses_onPart (uses_merge.mono hmerges)) fun seen => uses_finish seen ?_ hcloses hnote
  intro c hwrites
  cases c <;> first | exact False.elim hwrites | exact hmerges (.write _ _) trivial

/-- The calls of a transaction on the files are calls on the paths of its store. -/
theorem uses_apply : (t.apply secrets).Uses t.settings.paths.Serves := by
  have hgates : ∀ c, t.rewrite.Gates c → t.settings.paths.Serves c := by
    intro c hgates
    cases c <;> first | exact False.elim hgates | exact hgates | exact hgates.1 | trivial
  have hcommits : ∀ c, Commit.Commits t.settings.paths c → t.settings.paths.Serves c := by
    rintro c (hsteps | hremoves | ⟨_, rfl⟩)
    · cases c <;> first | exact False.elim hsteps | exact hsteps | trivial
    · cases c <;> first | exact False.elim hremoves | exact hremoves | trivial
    · trivial
  have hprepare : (t.prepare secrets).Uses t.settings.paths.Serves := by
    refine uses_prepare (fun c hmerges => ?_) (fun c hcloses => ?_) trivial
    · cases c <;> first | exact False.elim hmerges | exact hmerges | trivial
    · cases c <;> first | exact False.elim hcloses | trivial
  refine uses_bind (uses_modify _) fun _ => uses_bind (uses_onPart (uses_acquire.mono hgates)) fun _ => ?_
  refine uses_bind (uses_modify _) fun _ => uses_bind (uses_orCleanUp hprepare (uses_onPart ?_)) fun record => ?_
  · exact uses_discard.mono fun c hgives => hgates c (.of_givesUp hgives)
  · refine uses_bind (uses_onPart (uses_modify _)) fun _ => ?_
    exact uses_bind (Commit.uses_commit.mono hcommits) fun _ => uses_bind (uses_modify _) fun _ => uses_pure _

/-- Applying a transaction succeeds exactly where the staging file is installed. -/
theorem Stages.installed {outcome : Except Failure (Option Record)}
    (hstages : t.Stages secrets state s tr outcome state' s') :
    (∃ record, outcome = .ok record) ↔ tr.Installed := by
  have hgate : ∀ {state state' s s' gate} {outcome : Except Failure Unit},
      t.rewrite.acquire.Runs .foreign state s gate outcome state' s' → ¬gate.Installed :=
    fun hacquire => Trace.not_installed_of_calls _ (hacquire.calls uses_acquire) fun _ _ h => h
  have hwork : ∀ {state state' s s' work} {outcome : Except Failure (Option Record)},
      (t.prepare secrets).Runs .foreign state s work outcome state' s' → ¬work.Installed := by
    intro state state' s s' work outcome hprepare
    have huses : (t.prepare secrets).Uses fun c => ∀ staging primary, c ≠ .install staging primary := by
      refine uses_prepare (fun c hmerges => ?_) (fun c hcloses => ?_) (fun _ _ h => by cases h)
      · rintro _ _ rfl
        exact hmerges
      · rintro _ _ rfl
        exact hcloses
    exact Trace.not_installed_of_calls _ (hprepare.calls huses) fun _ _ h => h _ _ rfl
  cases hstages with
  | ungated hacquire => exact ⟨fun ⟨_, hok⟩ => (by cases hok), fun h => absurd h (hgate hacquire)⟩
  | @unprepared _ _ _ _ _ _ _ _ _ _ result hacquire hprepare hdiscard =>
    refine ⟨fun ⟨_, hok⟩ => (by cases result <;> cases hok), fun hinstalled => ?_⟩
    rw [Trace.installed_append, or_iff_right (hgate hacquire), Trace.installed_append,
      or_iff_right (hwork hprepare)] at hinstalled
    exact absurd hinstalled (Trace.not_installed_of_calls _ (hdiscard.calls uses_discard) fun _ _ h => h)
  | uncommitted hacquire hprepare hcommit =>
    rw [Trace.installed_append, or_iff_right (hgate hacquire), Trace.installed_append,
      or_iff_right (hwork hprepare), ← Commit.installed_of_commit hcommit]
    exact ⟨fun ⟨_, hok⟩ => (by cases hok), fun hok => (by cases hok)⟩
  | committed hacquire hprepare hcommit =>
    rw [Trace.installed_append, or_iff_right (hgate hacquire), Trace.installed_append,
      or_iff_right (hwork hprepare), ← Commit.installed_of_commit hcommit]
    exact ⟨fun _ => rfl, fun _ => ⟨_, rfl⟩⟩

/-- A run succeeds exactly where the staging file is installed. -/
theorem installed_of_run {outcome : Except Failure (Option Record)}
    (hruns : t.run.Runs .foreign state s tr outcome state' s') :
    (∃ record, outcome = .ok record) ↔ tr.Installed := by
  have hopening : ∀ {outcome state' s' first}, t.opening.Runs .foreign state s first outcome state' s' →
      ¬first.Installed := fun hopening =>
    Trace.not_installed_of_calls (·.faultPoint? = none) (granted_of_opening hopening).2.2 fun _ _ h => by cases h
  obtain ⟨_, rfl, -, -, hrefused⟩ | ⟨_, _, _, _, _, rfl, -, -, hfirst, happly⟩ := of_run hruns
  · exact ⟨fun ⟨_, hok⟩ => (by cases hok), fun h => absurd h (hopening hrefused)⟩
  · rw [Trace.installed_append, or_iff_right (hopening hfirst)]
    exact (stages_of_apply happly).installed

/-- Whether a staging file that an action synced is not open afterwards, and was not given up before. -/
def Settles {α : Type} (action : Action Progress α) : Prop :=
  ∀ ⦃strikes : Strikes⦄ ⦃state state' : Progress⦄ ⦃s s' : Scene⦄ ⦃tr : Trace⦄ ⦃outcome : Except Failure α⦄,
    action.Runs strikes state s tr outcome state' s' →
      tr.NotesUnsynced ∧ (tr.Synced → state'.rewrite.stream = none)

theorem settles_bind {α β : Type} {first : Action Progress α} {next : α → Action Progress β}
    (huses : first.Uses (¬·.Syncs)) (hnext : ∀ value, Settles (next value)) : Settles (first >>= next) := by
  have hunsynced : ∀ {strikes state state' s s' tr} {outcome : Except Failure α},
      first.Runs strikes state s tr outcome state' s' → ¬tr.Synced :=
    fun hruns => Trace.not_synced_of_calls (hruns.calls huses)
  intro strikes state state' s s' tr outcome hruns
  obtain ⟨value, state₁, s₁, tr₁, tr₂, rfl, hfirst, hrest⟩ | ⟨failure, rfl, hfirst⟩ := hruns.of_bind
  · obtain ⟨hnotes, hclosed⟩ := hnext value hrest
    refine ⟨(Trace.notesUnsynced_of_not_synced (hunsynced hfirst)).append hnotes fun hsynced => ?_, ?_⟩
    · exact absurd hsynced (hunsynced hfirst)
    · exact fun hsynced => hclosed ((Trace.synced_append.1 hsynced).resolve_left (hunsynced hfirst))
  · exact ⟨Trace.notesUnsynced_of_not_synced (hunsynced hfirst), fun h => absurd h (hunsynced hfirst)⟩

theorem settles_validate (record : Option Record) : Settles (t.validate record) := by
  intro strikes state state' s s' tr outcome hruns
  obtain ⟨_, _, _, tr₁, _, rfl, hclose, hlast⟩ | ⟨failure, rfl, hclose⟩ := hruns.of_bind
  · obtain ⟨rewrite, rfl, hclosing⟩ := Runs.of_onPart hclose
    have hentered := Runs.of_modify_bind hlast
    obtain ⟨rfl, -, rfl, -⟩ := Runs.of_pure hentered
    obtain ⟨hclosed, hnotes⟩ := of_close hclosing
    rw [List.append_nil]
    exact ⟨hnotes, fun _ => hclosed⟩
  · obtain ⟨rewrite, rfl, hclosing⟩ := Runs.of_onPart hclose
    obtain ⟨hclosed, hnotes⟩ := of_close hclosing
    exact ⟨hnotes, fun _ => hclosed⟩

theorem settles_conclude (seen : Summary) (record : Option Record) : Settles (t.conclude seen record) := by
  unfold conclude
  split
  · exact settles_bind (uses_ask (fun h => h)) fun _ => settles_validate record
  · exact settles_validate record

theorem settles_complete (seen : Summary) (record : Option Record) : Settles (t.complete seen record) := by
  rw [complete_eq]
  cases record with
  | none => exact settles_conclude seen none
  | some record =>
    refine settles_bind (uses_onPart ((uses_append record).mono ?_)) fun _ => settles_conclude seen (some record)
    intro c hwrites
    cases c <;> first | exact False.elim hwrites | exact fun hsyncs => hsyncs

theorem settles_prepare : Settles (t.prepare secrets) := by
  rw [prepare_eq]
  refine settles_bind (uses_onPart (uses_merge.mono ?_)) fun seen => ?_
  · intro c hmerges
    cases c <;> first | exact False.elim hmerges | exact fun hsyncs => hsyncs
  · refine settles_bind (uses_modify _) fun _ => settles_bind (uses_check _) fun _ => ?_
    exact settles_bind (uses_check _) fun record => settles_complete seen record

theorem not_syncs_of_gates {r : Rewrite} {c : Call} (hgates : r.Gates c) : ¬c.Syncs := by
  cases c <;> first | exact False.elim hgates | exact fun hsyncs => hsyncs

theorem not_synced_of_acquire {strikes : Strikes} {state state' : Rewrite.State}
    {outcome : Except Failure Unit} (hruns : t.rewrite.acquire.Runs strikes state s tr outcome state' s') :
    ¬tr.Synced :=
  Trace.not_synced_of_calls fun e he => not_syncs_of_gates (hruns.calls uses_acquire e he)

/-- Giving up a staging file that was synced closes nothing. -/
theorem unnoted_of_discard {strikes : Strikes} {state state' : Rewrite.State} {outcome : Except Failure Unit}
    (hstream : state.stream = none) (hruns : t.rewrite.discard.Runs strikes state s tr outcome state' s') :
    tr.Unnoted ∧ ∀ e ∈ tr, ∀ file, e.call ≠ .closeStaging file := by
  have hcalls := Program.Runs.calls (uses_discard_of_closed hstream) hruns
  refine ⟨fun e he staging hnote => ?_, fun e he file hclose => ?_⟩
  · exact absurd (hcalls e he) (by rw [hnote]; exact fun h => h)
  · exact absurd (hcalls e he) (by rw [hclose]; exact fun h => h)

theorem Stages.notesUnsynced {outcome : Except Failure (Option Record)}
    (hstages : t.Stages secrets state s tr outcome state' s') : tr.NotesUnsynced := by
  have hcommits : ∀ {state state' s s' tr} {outcome : Except Failure Unit},
      (Commit.commit t.settings.paths : Action Progress Unit).Runs .foreign state s tr outcome state' s' →
      tr.Unnoted := by
    intro state state' s s' tr outcome hcommit e he staging hnote
    obtain hsteps | hremoves | ⟨_, hinstalled⟩ := hcommit.calls Commit.uses_commit e he
    · rw [hnote] at hsteps
      exact hsteps
    · rw [hnote] at hremoves
      exact hremoves
    · rw [hnote] at hinstalled
      cases hinstalled
  cases hstages with
  | ungated hacquire => exact Trace.notesUnsynced_of_not_synced (not_synced_of_acquire hacquire)
  | unprepared hacquire hprepare hdiscard =>
    obtain ⟨hnotes, hclosed⟩ := settles_prepare hprepare
    refine (Trace.notesUnsynced_of_not_synced (not_synced_of_acquire hacquire)).append (hnotes.append ?_ ?_)
      fun hsynced => absurd hsynced (not_synced_of_acquire hacquire)
    · refine Trace.notesUnsynced_of_not_synced (Trace.not_synced_of_calls fun e he => ?_)
      exact not_syncs_of_gates (.of_givesUp (hdiscard.calls uses_discard e he))
    · exact fun hsynced => (unnoted_of_discard (hclosed hsynced) hdiscard).1
  | uncommitted hacquire hprepare hcommit =>
    have hlast := hcommits hcommit
    refine (Trace.notesUnsynced_of_not_synced (not_synced_of_acquire hacquire)).append ?_ fun hsynced =>
      absurd hsynced (not_synced_of_acquire hacquire)
    exact (settles_prepare hprepare).1.append (Trace.notesUnsynced_of_unnoted hlast) fun _ => hlast
  | committed hacquire hprepare hcommit =>
    have hlast := hcommits hcommit
    refine (Trace.notesUnsynced_of_not_synced (not_synced_of_acquire hacquire)).append ?_ fun hsynced =>
      absurd hsynced (not_synced_of_acquire hacquire)
    exact (settles_prepare hprepare).1.append (Trace.notesUnsynced_of_unnoted hlast) fun _ => hlast

theorem notesUnsynced_of_run {outcome : Except Failure (Option Record)}
    (hruns : t.run.Runs .foreign state s tr outcome state' s') : tr.NotesUnsynced := by
  have hopening : ∀ {outcome state' s' first}, t.opening.Runs .foreign state s first outcome state' s' →
      ¬first.Synced := by
    intro outcome state' s' first hopening
    refine Trace.not_synced_of_calls fun e he hsyncs => ?_
    cases hsyncs.faultPoint?_eq.symm.trans ((granted_of_opening hopening).2.2 e he)
  obtain ⟨_, -, -, -, hrefused⟩ | ⟨_, _, _, _, _, rfl, -, -, hfirst, happly⟩ := of_run hruns
  · exact Trace.notesUnsynced_of_not_synced (hopening hrefused)
  · exact (Trace.notesUnsynced_of_not_synced (hopening hfirst)).append
      (stages_of_apply happly).notesUnsynced fun hsynced => absurd hsynced (hopening hfirst)

end Transaction

end CredentialStore
