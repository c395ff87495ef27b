import CredentialStore.Proofs.FileSystem.Data
import CredentialStore.Proofs.Run.Parts
import CredentialStore.Proofs.Store.Holding

namespace CredentialStore

/-- A log is kept in a file only if its level is known. -/
theorem Log.Options.exists_level_of_keepsFile {options : Options} (hkeeps : options.keepsFile = true) :
    ∃ level, Level.ofName options.level = .ok level := by
  unfold keepsFile Setup.configure at hkeeps
  cases hlevel : Level.ofName options.level with
  | ok level => exact ⟨level, rfl⟩
  | error problem =>
    rw [hlevel] at hkeeps
    cases hkeeps

/-- What setting up a log makes of the files. -/
inductive Log.Options.Opens (options : Options) (place : Location) (fs : FileSystem) :
    Option FileId → FileSystem → Prop
  /-- The log is kept in no file. -/
  | nowhere (hkeeps : options.keepsFile = false) : Opens options place fs none fs
  /-- The file of the log is opened, and created where nothing lies. -/
  | file {id : FileId} {fs' : FileSystem} (hkeeps : options.keepsFile = true)
      (hopen : fs.openToAppend place = .ok (id, fs')) : Opens options place fs (some id) fs'

namespace Scene

/-- A scene with other files. -/
def withFiles (s : Scene) (files : FileSystem) : Scene := { s with world := { s.world with files } }

/-- A call is answered while the log may be kept in a file. That file lies at a place and is opened when the log
    is set up, or cannot be opened; from then on anything may be added to it whenever something is logged. -/
inductive Serves (place : Location) : Option FileId → Scene → Event → Option FileId → Scene → Prop
  | performed {log : Option FileId} {s : Scene} (c : Call)
      (hquiet : ∀ options, c = .setUpLog options → options.keepsFile = false) :
      Serves place log s ⟨c, (s.perform c).1, false⟩ log (s.perform c).2
  | opened {log : Option FileId} {s : Scene} {options : Log.Options} {id : FileId} {files : FileSystem}
      (hkeeps : options.keepsFile = true) (hopen : s.world.files.openToAppend place = .ok (id, files)) :
      Serves place log s ⟨.setUpLog options, .ok (), false⟩ (some id)
        ((s.perform (.setUpLog options)).2.withFiles files)
  | unopened {log : Option FileId} {s : Scene} {options : Log.Options} (failure : Failure)
      (hkeeps : options.keepsFile = true) : Serves place log s ⟨.setUpLog options, .error failure, true⟩ log s
  | written {id : FileId} {s : Scene} (event : Log.Event) (octets : Bytes) :
      Serves place (some id) s ⟨.log event, .ok (), false⟩ (some id)
        ((s.perform (.log event)).2.withFiles ((s.perform (.log event)).2.world.files.append id octets))

/-- Setting up the log succeeds only at a level that is known, and touches no file then but the one of the log. -/
theorem Serves.of_setUpLog {place : Location} {log : Option FileId} {s s' : Scene} {options : Log.Options}
    {answer : Except Failure Unit} {struck : Bool}
    (hserves : Serves place none s ⟨.setUpLog options, answer, struck⟩ log s') :
    (answer = .ok () ∧ (∃ level, Log.Level.ofName options.level = .ok level) ∧
      options.Opens place s.world.files log s'.world.files) ∨
    s'.world.files = s.world.files ∧ ∃ failure, answer = .error failure ∧
      (options.keepsFile = true ∧ struck = true ∨
        ∃ problem, failure = .level problem ∧ Log.Level.ofName options.level = .error problem) := by
  cases hserves with
  | opened hkeeps hopen => exact .inl ⟨rfl, options.exists_level_of_keepsFile hkeeps, .file hkeeps hopen⟩
  | unopened failure hkeeps => exact .inr ⟨rfl, failure, rfl, .inl ⟨hkeeps, rfl⟩⟩
  | performed _ hquiet =>
    have hnowhere : options.Opens place s.world.files none s.world.files := .nowhere (hquiet options rfl)
    simp only [perform, World.answer, Log.Setup.configure]
    cases Log.Level.ofName options.level with
    | ok level => exact .inl ⟨rfl, ⟨level, rfl⟩, hnowhere⟩
    | error problem => exact .inr ⟨rfl, _, rfl, .inr ⟨problem, rfl, rfl⟩⟩

/-- Answers a call, and tells whether a failure struck it, which file is the one of the log then and what became of
    the scene. What an event adds to that file is given. -/
def serve (place : Location) (added : Log.Event → Bytes) (log : Option FileId) (s : Scene) :
    (c : Call) → c.Answer × Bool × Option FileId × Scene
  | .setUpLog options =>
    if options.keepsFile then
      match s.world.files.openToAppend place with
      | .ok (id, files) => (.ok (), false, some id, (s.perform (.setUpLog options)).2.withFiles files)
      | .error failure => (.error failure, true, log, s)
    else ((s.perform (.setUpLog options)).1, false, log, (s.perform (.setUpLog options)).2)
  | .log event =>
    let s' := (s.perform (.log event)).2
    match log with
    | some id => (.ok (), false, some id, s'.withFiles (s'.world.files.append id (added event)))
    | none => (.ok (), false, none, s')
  | c => ((s.perform c).1, false, log, (s.perform c).2)

theorem serves_serve (place : Location) (added : Log.Event → Bytes) (log : Option FileId) (s : Scene) (c : Call) :
    Serves place log s ⟨c, (s.serve place added log c).1, (s.serve place added log c).2.1⟩
      (s.serve place added log c).2.2.1 (s.serve place added log c).2.2.2 := by
  cases c with
  | setUpLog options =>
    cases hkeeps : options.keepsFile with
    | false =>
      simp only [serve, hkeeps, Bool.false_eq_true, if_false]
      exact .performed (.setUpLog options) fun _ hsame => Call.setUpLog.inj hsame ▸ hkeeps
    | true =>
      cases hopen : s.world.files.openToAppend place with
      | ok opened =>
        simp only [serve, hkeeps, hopen, if_true]
        exact .opened hkeeps hopen
      | error failure =>
        simp only [serve, hkeeps, hopen, if_true]
        exact .unopened failure hkeeps
  | log event =>
    cases log with
    | none => exact .performed _ fun _ hlog => by cases hlog
    | some id => exact .written event (added event)
  | _ => exact .performed _ fun _ hother => by cases hother

end Scene

/-- A program runs to its end while the log may be kept in a file. -/
inductive Program.RunsLogging (place : Location) {α : Type} :
    Option FileId → Scene → Program α → Trace → α → Scene → Prop
  | done (log : Option FileId) (s : Scene) (value : α) : RunsLogging place log s (.done value) [] value s
  | call {log log' : Option FileId} {s s' s'' : Scene} {e : Event} {next : e.call.Answer → Program α}
      {rest : Trace} {value : α} (hserves : Scene.Serves place log s e log' s')
      (hrest : RunsLogging place log' s' (next e.answer) rest value s'') :
      RunsLogging place log s (.call e.call next) (e :: rest) value s''

namespace Program

variable {place : Location} {α β : Type} {s s' : Scene} {tr : Trace}

theorem RunsLogging.of_call {log : Option FileId} {c : Call} {next : c.Answer → Program α} {value : α}
    (hruns : (Program.call c next).RunsLogging place log s tr value s') :
    ∃ answer struck rest log₁ s₁, tr = ⟨c, answer, struck⟩ :: rest ∧
      Scene.Serves place log s ⟨c, answer, struck⟩ log₁ s₁ ∧
      (next answer).RunsLogging place log₁ s₁ rest value s' := by
  cases hruns with
  | call hserves hrest => exact ⟨_, _, _, _, _, rfl, hserves, hrest⟩

theorem RunsLogging.of_bind_done {log : Option FileId} {p : Program α} {f : α → β} {value : β}
    (hruns : (p.bind fun a => .done (f a)).RunsLogging place log s tr value s') :
    ∃ a, value = f a ∧ p.RunsLogging place log s tr a s' := by
  induction p generalizing log s tr with
  | done a =>
    cases hruns
    exact ⟨a, rfl, .done _ _ _⟩
  | call c next ih =>
    obtain ⟨_, _, _, _, _, rfl, hserves, hrest⟩ := RunsLogging.of_call hruns
    obtain ⟨a, hvalue, hrest⟩ := ih _ hrest
    exact ⟨a, hvalue, .call hserves hrest⟩

/-- Runs a program where each event adds something to the file of the log, to its calls, value and last scene. -/
def serve (place : Location) (added : Log.Event → Bytes) :
    Option FileId → Scene → Program α → Trace × α × Scene
  | _, s, done value => ([], value, s)
  | log, s, call c next =>
    let (answer, struck, log', s') := s.serve place added log c
    let (rest, value, last) := (next answer).serve place added log' s'
    (⟨c, answer, struck⟩ :: rest, value, last)

theorem runsLogging_serve (place : Location) (added : Log.Event → Bytes) (log : Option FileId) (s : Scene)
    (p : Program α) :
    p.RunsLogging place log s (p.serve place added log s).1 (p.serve place added log s).2.1
      (p.serve place added log s).2.2 := by
  induction p generalizing log s with
  | done value => exact .done log s value
  | call c next ih => exact .call (s.serves_serve place added log c) (ih _ _ _)

end Program

/-- An action runs to its end while the log may be kept in a file. -/
def Action.RunsLogging {σ α : Type} (place : Location) (log : Option FileId) (action : Action σ α) (state : σ)
    (s : Scene) (tr : Trace) (outcome : Except Failure α) (state' : σ) (s' : Scene) : Prop :=
  (action state).RunsLogging place log s tr (outcome, state') s'

theorem Action.RunsLogging.of_map {σ α β : Type} {place : Location} {log : Option FileId} {f : α → β}
    {action : Action σ α} {state state' : σ} {s s' : Scene} {tr : Trace} {outcome : Except Failure β}
    (hruns : (f <$> action).RunsLogging place log state s tr outcome state' s') :
    ∃ result, outcome = result.map f ∧ action.RunsLogging place log state s tr result state' s' := by
  have hmap : (f <$> action) state = (action state).bind fun r => .done (r.1.map f, r.2) := by
    refine congrArg (action state).bind (funext fun r => ?_)
    obtain ⟨failure | value, state⟩ := r <;> rfl
  unfold Action.RunsLogging at hruns
  rw [hmap] at hruns
  obtain ⟨⟨result, state₁⟩, houtcome, haction⟩ := Program.RunsLogging.of_bind_done hruns
  obtain ⟨rfl, rfl⟩ := Prod.mk.inj houtcome
  exact ⟨result, rfl, haction⟩

open FileSystem

/-- Whether a call reads none of some files. -/
def Call.Ignores (changed : FileId → Prop) (fs : FileSystem) : Call → Prop
  | openPrimary path => ∀ id, fs.fileId? path = some id → ¬changed id
  | copyBackup source _ => ∀ id, fs.fileId? source = some id → ¬changed id
  | fetchLine id _ _ => ¬changed id
  | _ => True

theorem Call.Ignores.of_sameBut {changed : FileId → Prop} {fs fs' : FileSystem} {c : Call}
    (hignores : c.Ignores changed fs') (hsame : fs.SameBut changed fs') : c.Ignores changed fs := by
  cases c with
  | openPrimary path | copyBackup path target => exact fun id hid => hignores id ((hsame.fileId?_eq path).trans hid)
  | fetchLine id start stop => exact hignores
  | _ => trivial

theorem World.record_withFiles (w : World) (event : Log.Event) (files : FileSystem) :
    ({ w with files } : World).record event = { w.record event with files } := by
  obtain ⟨_, threshold, _, _, _, _⟩ := w
  cases threshold with
  | none => rfl
  | some level =>
    unfold record
    dsimp only
    split <;> rfl

theorem World.changing_withFiles {changed : FileId → Prop} {w : World} {call call' : Except Failure FileSystem}
    {files : FileSystem} (hsame : w.files.SameBut changed files) (hcall : SameResult changed call call') :
    ∃ after, ({ w with files } : World).changing call' =
        ((w.changing call).1, { (w.changing call).2 with files := after }) ∧
      (w.changing call).2.files.SameBut changed after := by
  cases hcall with
  | ok hafter => exact ⟨_, rfl, hafter⟩
  | error failure => exact ⟨files, rfl, hsame⟩

namespace Scene

variable {changed : FileId → Prop} {s : Scene} {files : FileSystem}

theorem files_perform_log (s : Scene) (event : Log.Event) :
    (s.perform (.log event)).2.world.files = s.world.files := by
  have hleaves : Call.LeavesFiles (.log event) := trivial
  exact hleaves.files_answer s.world

/-- A call that reads none of some files has the same answer and the same effect whatever these hold. -/
theorem perform_withFiles (hsame : s.world.files.SameBut changed files) {c : Call}
    (hignores : c.Ignores changed s.world.files) :
    ∃ after, (s.withFiles files).perform c = ((s.perform c).1, (s.perform c).2.withFiles after) ∧
      (s.perform c).2.world.files.SameBut changed after := by
  cases c with
  | createStaging path mode =>
    simp only [perform, World.answer, withFiles]
    obtain ⟨file, now, now', hcreate, hcreate', hafter⟩ | ⟨failure, hcreate, hcreate'⟩ := hsame.create path mode
    · simp only [hcreate, hcreate']
      exact ⟨now', rfl, hafter⟩
    · simp only [hcreate, hcreate']
      exact ⟨files, rfl, hsame⟩
  | openPrimary path =>
    simp only [perform, World.answer, withFiles, hsame.openFile_eq]
    cases hopen : s.world.files.openFile path with
    | ok id =>
      simp only [hsame.dataOf_eq (hignores id (fileId?_of_openFile hopen))]
      exact ⟨files, rfl, hsame⟩
    | error failure => exact ⟨files, rfl, hsame⟩
  | fetchLine id start stop =>
    simp only [perform, World.answer, withFiles, hsame.lineAt_eq hignores]
    exact ⟨files, rfl, hsame⟩
  | write id octets => exact ⟨files.append id octets, rfl, hsame.change id fun _ _ hmode => hmode⟩
  | unlinkStaging path | unlinkBackup path =>
    obtain ⟨after, hchanging, hafter⟩ := World.changing_withFiles hsame (hsame.unlink path)
    exact ⟨after, congrArg (fun r => (r.1, { s with world := r.2 })) hchanging, hafter⟩
  | linkBackup source target =>
    obtain ⟨after, hchanging, hafter⟩ := World.changing_withFiles hsame (hsame.link source target)
    exact ⟨after, congrArg (fun r => (r.1, { s with world := r.2 })) hchanging, hafter⟩
  | copyBackup source target =>
    obtain ⟨after, hchanging, hafter⟩ := World.changing_withFiles hsame (hsame.copy hignores target)
    exact ⟨after, congrArg (fun r => (r.1, { s with world := r.2 })) hchanging, hafter⟩
  | install source target =>
    obtain ⟨after, hchanging, hafter⟩ := World.changing_withFiles hsame (hsame.rename source target)
    exact ⟨after, congrArg (fun r => (r.1, { s with world := r.2 })) hchanging, hafter⟩
  | readTerminal prompt =>
    refine ⟨files, ?_, hsame⟩
    simp only [perform, withFiles]
  | log event =>
    refine ⟨files, ?_, by rwa [files_perform_log]⟩
    simp only [perform, World.answer, withFiles, World.record_withFiles]
  | setUpLog options =>
    simp only [perform, World.answer, withFiles]
    cases Log.Setup.configure options with
    | ok setup => exact ⟨files, rfl, hsame⟩
    | error problem => exact ⟨files, rfl, hsame⟩
  | beginTransaction =>
    simp only [perform, World.answer, World.beginTransaction, withFiles]
    exact ⟨files, rfl, hsame⟩
  | _ => exact ⟨files, rfl, hsame⟩

/-- Setting up the log apart, a call is answered as it is where nothing is added to the file of the log, unless it
    reads that file. -/
theorem Serves.answers {strikes : Strikes} {place : Location} {log log' : Option FileId} {s' : Scene} {e : Event}
    (hserves : Serves place log s e log' s') (hset : ∀ options, e.call ≠ .setUpLog options)
    (hsame : s.world.files.SameBut (log = some ·) files) (hignores : e.call.Ignores (log = some ·) s.world.files) :
    log' = log ∧ e.struck = false ∧ ∃ after, Answers strikes (s.withFiles files) e (s'.withFiles after) ∧
      s'.world.files.SameBut (log = some ·) after := by
  cases hserves with
  | opened | unopened => exact absurd rfl (hset _)
  | performed c =>
    obtain ⟨after, hperform, hafter⟩ := perform_withFiles hsame hignores
    have hanswer : Answers strikes (s.withFiles files) ⟨c, _, false⟩ _ := .performed c
    rw [hperform] at hanswer
    exact ⟨rfl, rfl, after, hanswer, hafter⟩
  | @written id _ event octets =>
    obtain ⟨after, hperform, hafter⟩ := perform_withFiles hsame hignores
    have hanswer : Answers strikes (s.withFiles files) ⟨.log event, _, false⟩ _ := .performed (.log event)
    rw [hperform] at hanswer
    have hadded : (s.perform (.log event)).2.world.files.SameBut (some id = some ·)
        ((s.perform (.log event)).2.world.files.append id octets) :=
      .append (by rfl) _ octets
    exact ⟨rfl, rfl, after, hanswer, hadded.symm.trans hafter⟩

end Scene

end CredentialStore
