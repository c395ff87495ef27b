import CredentialStore.Proofs.FileSystem.Failing
import CredentialStore.Proofs.Run.Telling
import CredentialStore.Proofs.Store.Parts

namespace CredentialStore

open CredentialStore.Action

variable {bare : Call → Prop} {made : Failure → Prop}

/-- Removing a staging file whose path is proper is clean-up, whatever it fails for. -/
theorem cleans_removeStaging {σ : Type} {state : σ} {staging : Text} {part : Log.Part}
    (hpath : staging.NamesPath) {post : σ → Prop} (hpost : post state) :
    (removeStaging part staging : Action σ Unit).Cleans post state := by
  refine cleans_met (c := .unlinkStaging staging) trivial rfl (fun s failure hperform => ?_)
    (fun cause => ?_) hpost
  · refine Scene.system_of_perform (fun path hmem => ?_) rfl hperform
    rwa [List.mem_singleton.1 hmem]
  · cases cause with
    | unnumbered notice => exact excuses_note trivial trivial
    | numbered errno => cases errno <;> first | exact excuses_pure trivial | exact excuses_note trivial trivial

namespace Rewrite

variable {r : Rewrite} {state : State} {file : FileId}

/-- Whether a rewrite that owns its staging file has it open. -/
structure State.Open (state : State) (file : FileId) : Prop where
  stream : state.stream = some file
  owned : state.owned = true

/-- Whether the record that was seen, if any, is one that was looked for in a line. -/
def Matches (r : Rewrite) (seen : Summary) : Prop :=
  ∀ record, seen.matched = some record →
    (∃ line, Record.parse line = some record) ∧ record.isFor r.identity r.realm = true

theorem cleans_closeGivenUp (file : FileId) : (r.closeGivenUp file).Cleans (· = state) state :=
  cleans_met (c := .closeStaging file) trivial rfl (fun _ _ hperform => by cases hperform)
    (fun _ => excuses_note trivial ⟨r.staging, rfl⟩) rfl

theorem cleans_removeOwned (hpath : r.staging.NamesPath) (state : State) :
    r.removeOwned.Cleans (fun _ => True) state := by
  refine cleans_get_bind ?_
  by_cases howned : state.owned = true
  · rw [if_pos howned]
    exact cleans_modify_bind (cleans_removeStaging hpath trivial)
  · rw [if_neg howned]
    exact cleans_pure trivial

theorem cleans_discard (hpath : r.staging.NamesPath) : r.discard.Cleans (fun _ => True) state := by
  rw [discard_eq]
  refine cleans_get_bind ?_
  cases hstream : state.stream with
  | none => exact cleans_removeOwned hpath state
  | some file =>
    refine cleans_modify_bind (cleans_bind (fun _ => trivial) ?_)
    intro s s' tr outcome state' hruns
    exact (cleans_closeGivenUp file hruns).imp_left fun _ _ => cleans_removeOwned hpath state'

/-- A created staging file is made ready for writing, or it is given up and the failure is named. -/
theorem tells_openStream (hpath : r.staging.NamesPath) (hmade : ∀ cause, ¬made (.system cause))
    (hstate : state = { owned := true }) :
    (r.openStream file).Tells bare made (fun outcome state' => ∀ value, outcome = .ok value →
      state'.Open file) state := by
  have hfailed : ∀ (failure : Failure) (state' : State) value,
      (Except.error failure : Except Failure Unit) = .ok value → state'.Open file :=
    fun _ _ _ hvalue => by cases hvalue
  refine tells_naming (ask (.abandonStream file) >>= fun _ => r.discard) (text "Unable to open password file")
    hmade (fun cause => (bind_assoc _ _ _).symm) ?_
  refine tells_bind (tells_ask (c := .openStream file) (fun h => h) rfl fun outcome => ?_)
  cases outcome with
  | error failure =>
    refine ⟨hfailed failure state, cleans_bind (fun state' failure => hfailed failure state') ?_⟩
    refine cleans_ask (c := .abandonStream file) trivial trivial rfl fun _ => ?_
    exact fun s s' tr outcome state' hruns =>
      (cleans_discard hpath hruns).imp_left fun _ failure => hfailed failure state'
  | ok _ =>
    refine tells_modify fun value _ => ?_
    subst hstate
    exact ⟨rfl, rfl⟩

/-- The staging file is created, unless it is there already, and made ready for writing. -/
theorem tells_acquire (hmade : ∀ cause, ¬made (.system cause)) :
    r.acquire.Tells bare made (fun outcome state' => ∀ value, outcome = .ok value →
      r.staging.NamesPath ∧ ∃ file, state'.Open file) {} := by
  refine tells_bind (tells_ask_met (c := .createStaging r.staging r.mode)
    (text "Unable to open password file") rfl ?_ ?_ ?_)
  · intro s file hperform
    have hpath : r.staging.NamesPath := by
      simp only [Scene.perform, World.answer] at hperform
      split at hperform
      · exact FileSystem.namesPath_of_create ‹_›
      · cases hperform
    refine tells_modify_bind ((tells_openStream hpath hmade rfl).mono ?_)
    exact fun outcome state' hopen value hvalue => ⟨hpath, file, hopen value hvalue⟩
  · intro failure value hvalue
    cases hvalue
  · intro cause
    refine .inl ?_
    split
    · rfl
    · rename_i hother
      rw [Call.names_eq fun _ => hother]
      rfl

theorem open_of_acquire {s s' : Scene} {tr : Trace} (hruns : r.acquire.Runs .foreign {} s tr (.ok ()) state s') :
    r.staging.NamesPath ∧ ∃ file, state.Open file :=
  have htells : r.acquire.Tells (fun _ => True) (fun _ => False) (fun outcome state' => ∀ value,
      outcome = .ok value → r.staging.NamesPath ∧ ∃ file, state'.Open file) {} := tells_acquire fun _ h => h
  (htells hruns).1 () rfl

/-- A staging file that was created is a new one. -/
theorem create_of_createFile {strikes : Strikes} {state' : State} {s s' : Scene} {tr : Trace}
    (hruns : r.createFile.Runs strikes state s tr (.ok file) state' s') :
    s.world.files.create r.staging r.mode = .ok (file, s'.world.files) := by
  obtain hask | ⟨_, _, _, _, _, -, -, hmet⟩ := Runs.of_onSystemError_ok hruns
  · obtain ⟨-, -, hanswer, rfl⟩ := Runs.of_ask_ok hask
    simp only [Scene.perform, World.answer] at hanswer ⊢
    cases hcall : s.world.files.create r.staging r.mode with
    | error failure =>
      rw [hcall] at hanswer
      cases hanswer
    | ok created =>
      rw [hcall] at hanswer
      cases hanswer
      rfl
  · split at hmet <;> cases (Runs.of_throw hmet).2.1

/-- A store that is acquired has a new staging file, which is open. -/
theorem create_of_acquire {strikes : Strikes} {state' : State} {s s' : Scene} {tr : Trace}
    (hruns : r.acquire.Runs strikes state s tr (.ok ()) state' s') :
    ∃ file, s.world.files.create r.staging r.mode = .ok (file, s'.world.files) ∧
      state'.stream = some file := by
  obtain ⟨file, state₁, s₁, tr₁, tr₂, rfl, hcreate, hopen⟩ := hruns.of_bind_ok
  have hopen := Runs.of_modify_bind hopen
  obtain hopened | ⟨_, _, _, _, _, -, -, hgiven⟩ := Runs.of_onSystemError_ok hopen
  · obtain ⟨_, state₂, s₂, tr₃, tr₄, rfl, hask, hmodify⟩ := hopened.of_bind_ok
    obtain ⟨rfl, rfl, -, rfl⟩ := Runs.of_ask_ok hask
    obtain ⟨rfl, hstate, rfl⟩ := Runs.of_done hmodify
    cases hstate
    exact ⟨file, create_of_createFile hcreate, rfl⟩
  · obtain ⟨_, _, _, _, _, -, -, hrest⟩ := Runs.of_bind_ok hgiven
    obtain ⟨_, _, _, _, _, -, -, hthrow⟩ := Runs.of_bind_ok hrest
    cases (Runs.of_throw hthrow).2.1

/-- Octets are written to a staging file that is open. -/
theorem tells_write (hopen : state.Open file) (octets : Bytes) :
    (write octets).Tells bare made (fun _ state' => state'.Open file) state := by
  refine tells_get_bind ?_
  rw [hopen.stream]
  refine tells_bind (tells_ask_named (c := .write file octets) rfl (fun h => h) fun outcome => ?_)
  cases outcome with
  | error failure => exact hopen
  | ok _ =>
    cases octets.getLast? with
    | none => exact tells_pure hopen
    | some last => exact tells_modify ⟨hopen.stream, hopen.owned⟩

/-- The postcondition of work on the lines: the staging file stays open, and a record that is seen is one
    that was looked for. -/
def Copying (r : Rewrite) (file : FileId) (outcome : Except Failure Summary) (state : State) : Prop :=
  state.Open file ∧ ∀ seen, outcome = .ok seen → r.Matches seen

theorem copying_ok {seen : Summary} (hopen : state.Open file) (hmatches : r.Matches seen) :
    r.Copying file (.ok seen) state := by
  refine ⟨hopen, fun seen' hseen => ?_⟩
  cases hseen
  exact hmatches

theorem copying_error (hopen : state.Open file) (failure : Failure) :
    r.Copying file (.error failure) state :=
  ⟨hopen, fun _ hseen => by cases hseen⟩

theorem matches_of_fate {found : Option Record} {line : Bytes} {record : Record}
    (hfate : r.fate found line = .matched record) :
    Record.parse line = some record ∧ record.isFor r.identity r.realm = true := by
  simp only [fate] at hfate
  split at hfate
  · cases hfate
  · split at hfate
    · cases hfate
    · split at hfate
      · cases hfate
        exact ⟨‹_›, ‹_›⟩
      · cases hfate

theorem tells_handleLine (hopen : state.Open file) (number : Nat) {seen : Summary}
    (hmatches : r.Matches seen) (line : Bytes) :
    (r.handleLine number seen line).Tells bare made (r.Copying file) state := by
  unfold handleLine
  cases hfate : r.fate seen.matched line with
  | copied =>
    refine tells_bind ((tells_write hopen line).mono fun outcome state' hopen' => ?_)
    cases outcome with
    | error failure => exact copying_error hopen' failure
    | ok _ => exact tells_pure (copying_ok hopen' hmatches)
  | dropped => exact tells_bind (tells_note (tells_pure (copying_ok hopen hmatches)))
  | matched record =>
    obtain ⟨hparse, hfor⟩ := matches_of_fate hfate
    refine tells_pure (copying_ok hopen fun record' hrecord => ?_)
    cases hrecord
    exact ⟨⟨line, hparse⟩, hfor⟩

/-- Over the lines the errors of the calls that fetch them come out as they are. -/
theorem tells_handleLines (hbare : ∀ c : Call, ¬c.Creates → bare c) (opened : OpenedFile)
    (hopen : state.Open file) (limit offset number : Nat) {seen : Summary} (hmatches : r.Matches seen) :
    (r.handleLines opened limit offset number seen).Tells bare made (r.Copying file) state := by
  induction limit generalizing offset number seen state with
  | zero => exact tells_pure (copying_ok hopen hmatches)
  | succ limit ih =>
    refine tells_bind (tells_ask (c := .fetchLine opened.id offset opened.size)
      (hbare _ fun h => h) rfl fun outcome => ?_)
    cases outcome with
    | error failure => exact copying_error hopen failure
    | ok line =>
      change Tells bare made (if List.isEmpty line then _ else _) _ _
      split
      · exact tells_pure (copying_ok hopen hmatches)
      · refine tells_bind ((tells_handleLine hopen number hmatches line).mono ?_)
        rintro (failure | seen') state' ⟨hopen', hmatches'⟩
        · exact copying_error hopen' failure
        · exact ih hopen' _ _ (hmatches' seen' rfl)

theorem tells_copyLines (hmade : ∀ cause, ¬made (.system cause)) (opened : OpenedFile)
    (hopen : state.Open file) : (r.copyLines opened).Tells bare made (r.Copying file) state := by
  have hnone : r.Matches {} := fun _ hrecord => by cases hrecord
  refine tells_thenAlways (fun state => tells_ask (c := .closePrimary opened.id) trivial rfl fun _ => trivial) ?_
  refine tells_naming (pure ()) (text "Unable to read password file") hmade (fun _ => rfl)
    ((tells_handleLines (fun _ h => h) opened hopen _ 0 1 hnone).mono ?_)
  have hclose : ∀ {state : State} {outcome : Except Failure Summary}, r.Copying file outcome state →
      (ask (.closePrimary opened.id) : Action State Unit).Cleans
        (fun state' => r.Copying file outcome state' ∧ ∀ failure, r.Copying file (.error failure) state')
        state :=
    fun hcopying => cleans_ask (c := .closePrimary opened.id) trivial trivial rfl
      ⟨hcopying, copying_error hcopying.1⟩
  rintro (failure | seen) state' hcopying
  · refine ⟨hclose hcopying, cleans_pure fun failure => hclose (copying_error hcopying.1 failure)⟩
  · exact hclose hcopying

theorem tells_openPrimary {post : Except Failure (Option OpenedFile) → State → Prop}
    (hpost : ∀ outcome, post outcome state) : r.openPrimary.Tells bare made post state := by
  refine tells_met (c := .openPrimary r.primary) (text "Unable to open password file") rfl
    (fun _ _ _ => hpost _) (fun _ => hpost _) fun cause => ?_
  split
  · exact .inr ⟨rfl, tells_pure (hpost _)⟩
  · exact .inl rfl

/-- The lines of the primary file are copied to a staging file that is open. -/
theorem tells_merge (hmade : ∀ cause, ¬made (.system cause)) (hopen : state.Open file) :
    r.merge.Tells bare made (r.Copying file) state := by
  refine tells_get_bind ?_
  simp only [hopen.stream, Option.isNone_some, Bool.false_eq_true, if_false]
  refine tells_bind (tells_openPrimary fun outcome => ?_)
  rcases outcome with failure | (_ | opened)
  · exact copying_error hopen failure
  · exact tells_pure (copying_ok hopen fun _ hrecord => by cases hrecord)
  · refine tells_bind ((tells_copyLines hmade opened hopen).mono ?_)
    rintro (failure | seen) state' hcopying
    · exact hcopying
    · exact tells_bind (tells_note (tells_pure hcopying))

theorem tells_writeLine {line? : Option Bytes} (hopen : state.Open file)
    (hunencodable : line? = none → made .unencodable) :
    (writeLine line?).Tells bare made (fun _ state' => state'.Open file) state := by
  cases line? with
  | none => exact tells_throw (hunencodable rfl) hopen
  | some line => exact tells_write hopen line

/-- A record is added to a staging file that is open, if it has bytes. -/
theorem tells_append {record : Record} (hopen : state.Open file)
    (hunencodable : record.toLine? = none → made .unencodable) :
    (append record).Tells bare made (fun _ state' => state'.Open file) state := by
  rw [append_eq]
  refine tells_get_bind ?_
  split
  · refine tells_bind ((tells_write hopen [lineFeed]).mono fun outcome state' hopen' => ?_)
    cases outcome with
    | error failure => exact hopen'
    | ok _ => exact tells_writeLine hopen' hunencodable
  · exact tells_writeLine hopen hunencodable

/-- A staging file is closed, and its rewrite still owns it. -/
theorem tells_close (hmade : ∀ cause, ¬made (.system cause)) (howned : state.owned = true) :
    r.close.Tells bare made (fun _ state' => state'.owned = true) state := by
  refine tells_get_bind ?_
  cases state.stream with
  | none => exact tells_pure howned
  | some file =>
    refine tells_modify_bind (tells_bind ?_)
    refine tells_naming (r.closeGivenUp file) (text "Unable to write to password file") hmade (fun _ => rfl) ?_
    have hclean : (r.closeGivenUp file).Cleans (fun state' : State => ∀ _ : Failure, state'.owned = true)
        { state with stream := none } := by
      intro s s' tr outcome state' hruns
      refine (cleans_closeGivenUp file hruns).imp_left ?_
      rintro rfl _
      exact howned
    refine tells_bind (tells_ask (c := .flush file) (fun h => h) rfl fun outcome => ?_)
    cases outcome with
    | error failure => exact ⟨howned, hclean⟩
    | ok _ =>
      refine tells_ask (c := .sync file) (fun h => h) rfl fun outcome => ?_
      cases outcome with
      | error failure => exact ⟨howned, hclean⟩
      | ok _ => exact tells_ask_named (c := .closeStaging file) rfl (fun h => h) fun _ => howned

end Rewrite

namespace Commit

variable {σ : Type} {state : σ} {paths : StorePaths}

theorem tells_removeBackup {post : Except Failure Unit → σ → Prop} (hpost : ∀ outcome, post outcome state) :
    (removeBackup paths : Action σ Unit).Tells bare made post state := by
  refine tells_ask_met (c := .unlinkBackup paths.backup)
    (text "failed to remove old backup password file") rfl (fun _ _ _ => hpost _)
    (fun _ => hpost _) fun cause => ?_
  split
  · exact .inr ⟨rfl, tells_pure (hpost _)⟩
  · exact .inl rfl

theorem tells_copyPrimary {post : Except Failure Bool → σ → Prop} (hpost : ∀ outcome, post outcome state) :
    (copyPrimary paths : Action σ Bool).Tells bare made post state := by
  refine tells_met (c := .copyBackup paths.primary paths.backup) (f := fun _ => true)
    (text "failed to backup old password file") rfl (fun _ _ _ => hpost _)
    (fun _ => hpost _) fun cause => ?_
  split
  · exact .inr ⟨rfl, tells_pure (hpost _)⟩
  · exact .inl rfl

/-- Linking is a call like the others, except that any of its failures is looked at by cases. -/
theorem backUpPrimary_eq : (backUpPrimary paths : Action σ Bool) =
    Action.onSystemError (do
      ask (.linkBackup paths.primary paths.backup)
      pure true) fun
      | .numbered .notFound => pure false
      | e =>
        if isLinkUnsupported e then do
          note (.linkUnsupported paths.backup e.description)
          copyPrimary paths
        else throw (cannotBackUp e) := by
  funext state
  refine congrArg (Program.call (.linkBackup paths.primary paths.backup)) (funext fun answer => ?_)
  rcases answer with failure | _
  · cases failure with
    | system cause =>
      cases cause with
      | numbered errno => cases errno <;> rfl
      | unnumbered description => rfl
    | _ => rfl
  · rfl

theorem tells_backUpPrimary {post : Except Failure Bool → σ → Prop} (hpost : ∀ outcome, post outcome state) :
    (backUpPrimary paths : Action σ Bool).Tells bare made post state := by
  rw [backUpPrimary_eq]
  refine tells_met (c := .linkBackup paths.primary paths.backup) (f := fun _ => true)
    (text "failed to backup old password file") rfl (fun _ _ _ => hpost _)
    (fun _ => hpost _) fun cause => ?_
  split
  · exact .inr ⟨.inl rfl, tells_pure (hpost _)⟩
  · split
    · exact .inr ⟨.inr ‹_›, tells_bind (tells_note (tells_copyPrimary hpost))⟩
    · exact .inl rfl

/-- A commit tells the failure of any of its steps. -/
theorem tells_commit (hpath : paths.staging.NamesPath) {post : Except Failure Unit → σ → Prop}
    (hpost : ∀ outcome, post outcome state) :
    (commit paths : Action σ Unit).Tells bare made post state := by
  have hsteps : (steps paths).Tells bare made (fun _ state' => state' = state) state := by
    refine tells_bind (tells_removeBackup fun outcome => ?_)
    cases outcome with
    | error failure => rfl
    | ok _ =>
      refine tells_bind (tells_backUpPrimary fun outcome => ?_)
      cases outcome with
      | error failure => rfl
      | ok backedUp =>
        refine tells_bind
          (tells_ask_named (c := .install paths.staging paths.primary) rfl (fun h => h) fun outcome => ?_)
        cases outcome with
        | error failure => rfl
        | ok _ => exact tells_pure rfl
  refine tells_bind (tells_orCleanUp (hsteps.mono ?_))
  rintro (failure | backedUp) state' rfl
  · exact cleans_removeStaging hpath fun _ => hpost _
  · exact tells_note (hpost _)

end Commit

end CredentialStore
