import CredentialStore.Proofs.Interleaving.Basic
import CredentialStore.Proofs.Store.Abiding
import CredentialStore.Proofs.Store.Custody

namespace CredentialStore

open CredentialStore.Action Rewrite StorePaths

/-- The state that the program of an action is in: the one it would leave if its next call broke off. -/
def Program.state {σ α : Type} : Program (α × σ) → σ
  | .done result => result.2
  | .call _ next => (next (.error .interrupted)).state

/-- What holds wherever a program ends holds of the state that it is in. -/
theorem Program.Abides.state {paths : StorePaths} {σ α : Type} {inv : σ → Standing → Prop}
    {post : α × σ → Standing → Prop} {p : Program (α × σ)} {st : Standing} (habides : p.Abides paths post st)
    (hpost : ∀ result st', post result st' → inv result.2 st') : inv p.state st := by
  induction p generalizing st with
  | done result => exact hpost result st habides
  | call c next ih =>
    have hadmits : c.Admits st (.error .interrupted) :=
      ⟨fun file hturn => (by rw [Event.turn?_error] at hturn; cases hturn), fun _ h => by cases h⟩
    have hnext := ih _ (habides.2 _ hadmits)
    rwa [Standing.next, Event.turn?_error, Option.getD_none] at hnext

/-- Rewrites of one store. -/
structure Contest (ι : Type) where
  world : World
  session : ι → Session
  /-- What is left to do of what each was told last. -/
  program : ι → Program (Except Failure Scenario.Result × State)
  /-- Which of them have handed the staging file over, and did not commit it yet. -/
  handed : ι → Bool

namespace Contest

variable {ι : Type}

/-- Rewrites that have not been told anything. -/
def ofWorld (session : ι → Session) (world : World) : Contest ι where
  world
  session
  program _ := .done (.ok .nothing, {})
  handed _ := false

/-- Whether a rewrite has to remove or hand over the staging file. -/
def Owns (m : Contest ι) (i : ι) : Prop := (m.program i).state.owned = true

/-- The commit of a staging file that was handed over. -/
def committing (paths : StorePaths) : Action State Scenario.Result := do
  Commit.commit paths
  pure .nothing

variable [DecidableEq ι]

/-- A rewrite in a state is told to make a move. -/
def told (m : Contest ι) (r : ι → Rewrite) (i : ι) (move : Scenario.Move) (state : State) : Contest ι :=
  { m with
    program := Function.update m.program i (move.action (r i) state)
    handed := if move = .release then Function.update m.handed i true else m.handed }

/-- What was handed over is committed. -/
def toldCommit (m : Contest ι) (paths : StorePaths) (i : ι) (state : State) : Contest ι :=
  { m with
    program := Function.update m.program i (committing paths state)
    handed := Function.update m.handed i false }

/-- A rewrite that is done with everything is told what to do, or the next call of one is answered. Only a
    rewrite that owns the staging file and has closed it hands it over, and only what was handed over is
    committed, once. -/
inductive Step (r : ι → Rewrite) (paths : StorePaths) : Contest ι → Option (ι × Event) → Contest ι → Prop
  | move {m : Contest ι} {i : ι} {result : Except Failure Scenario.Result} {state : State}
      (move : Scenario.Move) (hidle : m.program i = .done (result, state))
      (hmay : move = .release → state.owned = true ∧ state.stream = none) :
      Step r paths m none (m.told r i move state)
  | commit {m : Contest ι} {i : ι} {result : Except Failure Scenario.Result} {state : State}
      (hidle : m.program i = .done (result, state)) (hhanded : m.handed i = true) :
      Step r paths m none (m.toldCommit paths i state)
  | call {m : Contest ι} {i : ι} {e : Event}
      {next : e.call.Answer → Program (Except Failure Scenario.Result × State)} {s' : Scene}
      (hprogram : m.program i = .call e.call next)
      (hanswer : Scene.Answers .foreign ⟨m.world, m.session i⟩ e s') :
      Step r paths m (some (i, e))
        { m with
          world := s'.world
          session := Function.update m.session i s'.session
          program := Function.update m.program i (next e.answer) }

/-- A run up to some point, with the calls that were answered. -/
inductive Run (r : ι → Rewrite) (paths : StorePaths) (first : Contest ι) :
    List (ι × Event) → Contest ι → Prop
  | start : Run r paths first [] first
  | step {steps : List (ι × Event)} {m m' : Contest ι} {step? : Option (ι × Event)}
      (hrun : Run r paths first steps m) (hstep : Step r paths m step? m') :
      Run r paths first (steps ++ step?.toList) m'

end Contest

/-- What a rewrite is at, as far as it matters to the others: it is done, it is about to create the staging
    file, or it does something else that abides by the rules of the staging file. -/
inductive Rewrite.Engaged (paths : StorePaths) (r : Rewrite) (handed : Bool) :
    Program (Except Failure Scenario.Result × State) → Standing → Prop
  | resting {result : Except Failure Scenario.Result} {state : State} {st : Standing}
      (hsettled : Settled handed state st) : Engaged paths r handed (.done (result, state)) st
  | acquiring {state : State} {st : Standing} (hsettled : Settled handed state st) :
      Engaged paths r handed (Scenario.Move.acquire.action r state) st
  | working {p : Program (Except Failure Scenario.Result × State)} {st : Standing}
      (habides : p.Abides paths (fun result st' => Settled handed result.2 st' ∧ Unrefused result.1) st) :
      Engaged paths r handed p st

namespace Rewrite.Engaged

variable {paths : StorePaths} {r : Rewrite} {handed : Bool} {state : State} {st : Standing}
  {p : Program (Except Failure Scenario.Result × State)}

/-- What an acquisition does with the answer to its first call. -/
def answered (r : Rewrite) (state : State) (answer : (Call.createStaging r.staging r.mode).Answer) :
    Program (Except Failure Scenario.Result × State) :=
  (do r.afterCreation answer; pure .nothing : Action State Scenario.Result) state

theorem acquire_action_eq (r : Rewrite) (state : State) : Scenario.Move.acquire.action r state =
    .call (.createStaging r.staging r.mode) (answered r state) := by
  show (r.acquire state).bind _ = _
  rw [acquire_eq]
  rfl

theorem settled (hengaged : Engaged paths r handed p st) : Settled handed p.state st := by
  cases hengaged with
  | resting hsettled => exact hsettled
  | acquiring hsettled =>
    rw [acquire_action_eq]
    exact hsettled
  | working habides => exact habides.state fun _ _ hpost => hpost.1

/-- An action of a rewrite that keeps its state settled, and then gives a result. -/
theorem of_steady {α : Type} {action : Action State α} (hsteady : action.Steady paths (Settled handed))
    (result : α → Scenario.Result) (hsettled : Settled handed state st) :
    Engaged paths r handed ((do let value ← action; pure (result value) : Action State Scenario.Result) state)
      st :=
  .working (steady_bind hsteady (fun _ => steady_pure _) hsettled)

theorem of_move (hstaging : r.staging = paths.staging) (hsettled : Settled handed state st)
    (move : Scenario.Move) (hmay : move = .release → state.owned = true ∧ state.stream = none) :
    Engaged paths r (if move = .release then true else handed) (move.action r state) st := by
  cases move with
  | acquire => exact .acquiring hsettled
  | merge => exact .of_steady steady_merge .merged hsettled
  | append record => exact .of_steady (steady_append record) (fun _ => .nothing) hsettled
  | close => exact .of_steady steady_close (fun _ => .nothing) hsettled
  | discard => exact .of_steady (steady_discard hstaging) (fun _ => .nothing) hsettled
  | release =>
    obtain ⟨howned, hstream⟩ := hmay rfl
    refine .resting ⟨fun h => (by cases h), fun h => ?_, fun _ => ⟨hsettled.owned howned, rfl⟩⟩
    rw [hstream] at h
    cases h

theorem abides_then_nothing {action : Action State Unit} (habides : action.Abides paths (fun outcome state' st' =>
      Settled handed state' st' ∧ Unrefused outcome) state st) :
    (do action; pure .nothing : Action State Scenario.Result).Abides paths (fun outcome state' st' =>
      Settled handed state' st' ∧ Unrefused outcome) state st := by
  refine abides_bind (habides.mono ?_)
  rintro (failure | _) state' st' ⟨hsettled, hunrefused⟩
  · exact ⟨hsettled, hunrefused.error⟩
  · exact steady_pure Scenario.Result.nothing hsettled

theorem of_commit (hsettled : Settled true state st) :
    Engaged paths r false (Contest.committing paths state) st := by
  exact .working (abides_then_nothing (Commit.abides_commit hsettled))

/-- An acquisition whose first call is answered: it finds that there is a staging file already, or it goes on. -/
theorem of_creation (hstaging : r.staging = paths.staging) (hsettled : Settled handed state st)
    {answer : (Call.createStaging r.staging r.mode).Answer} (hadmits : Call.Admits st _ answer) :
    (answer = .error (.numbered .alreadyExists) ∧
      answered r state answer = .done (.error (.credential (.busy r.staging)), state)) ∨
    (answered r state answer).Abides paths (fun result st' => Settled handed result.2 st' ∧ Unrefused result.1)
      (st.next ⟨.createStaging r.staging r.mode, answer, false⟩) := by
  by_cases hexists : answer = .error (.numbered .alreadyExists)
  · subst hexists
    exact .inl ⟨rfl, rfl⟩
  · exact .inr (abides_then_nothing (abides_afterCreation hstaging hsettled hadmits hexists))

/-- What abides by the rules without being refused does not end in a refusal. -/
theorem ne_busy (habides : p.Abides paths (fun result st' => Settled handed result.2 st' ∧ Unrefused result.1) st)
    (path : Text) : p ≠ .done (.error (.credential (.busy path)), state) := by
  rintro rfl
  exact habides.2 path rfl

variable {c : Call} {next : c.Answer → Program (Except Failure Scenario.Result × State)}

theorem fits (hstaging : r.staging = paths.staging) (hengaged : Engaged paths r handed (.call c next) st) :
    c.Fits paths st := by
  generalize hp : Program.call c next = p at hengaged
  cases hengaged with
  | resting => cases hp
  | acquiring =>
    rw [acquire_action_eq] at hp
    cases hp
    exact hstaging
  | working habides =>
    subst hp
    exact habides.1

theorem of_answer (hstaging : r.staging = paths.staging) (hengaged : Engaged paths r handed (.call c next) st)
    {answer : c.Answer} (hadmits : c.Admits st answer) :
    Engaged paths r handed (next answer) (st.next ⟨c, answer, false⟩) := by
  generalize hp : Program.call c next = p at hengaged
  cases hengaged with
  | resting => cases hp
  | acquiring hsettled =>
    rw [acquire_action_eq] at hp
    cases hp
    obtain ⟨rfl, hbusy⟩ | habides := of_creation hstaging hsettled hadmits
    · rw [hbusy]
      exact .resting hsettled
    · exact .working habides
  | working habides =>
    subst hp
    exact .working (habides.2 answer hadmits)

/-- Only an acquisition finds the store held by somebody else, and it does at its first call. -/
theorem acquiring_of_busy (hstaging : r.staging = paths.staging)
    (hengaged : Engaged paths r handed (.call c next) st) {answer : c.Answer} (hadmits : c.Admits st answer)
    {path : Text} (hbusy : next answer = .done (.error (.credential (.busy path)), state)) :
    .call c next = Scenario.Move.acquire.action r state ∧
      ∃ mode failure, (⟨c, answer⟩ : Σ c : Call, c.Answer) = ⟨.createStaging r.staging mode, .error failure⟩ := by
  generalize hp : Program.call c next = p at hengaged
  cases hengaged with
  | resting => cases hp
  | @acquiring state₀ _ hsettled =>
    rw [acquire_action_eq] at hp
    cases hp
    obtain ⟨rfl, hrefused⟩ | habides := of_creation hstaging hsettled hadmits
    · cases hrefused.symm.trans hbusy
      exact ⟨rfl, _, _, rfl⟩
    · exact absurd hbusy (ne_busy habides path)
  | working habides =>
    subst hp
    exact absurd hbusy (ne_busy (habides.2 answer hadmits) path)

end Rewrite.Engaged

namespace Contest

open Ensemble

variable {ι : Type} [DecidableEq ι] {r : ι → Rewrite} {paths : StorePaths} {root : Text}
  {steps : List (ι × Event)} {m m' : Contest ι} {i : ι} {state : State}

theorem program_told_self (m : Contest ι) (r : ι → Rewrite) (i : ι) (move : Scenario.Move) (state : State) :
    (m.told r i move state).program i = move.action (r i) state := Function.update_self i _ _

theorem program_told_of_ne {j : ι} (hne : j ≠ i) (move : Scenario.Move) :
    (m.told r i move state).program j = m.program j := Function.update_of_ne hne _ _

theorem handed_told_self (move : Scenario.Move) :
    (m.told r i move state).handed i = if move = .release then true else m.handed i := by
  simp only [told]
  split
  · exact Function.update_self i true m.handed
  · rfl

theorem handed_told_of_ne {j : ι} (hne : j ≠ i) (move : Scenario.Move) :
    (m.told r i move state).handed j = m.handed j := by
  simp only [told]
  split
  · exact Function.update_of_ne hne true m.handed
  · rfl

/-- What holds at every point of a run of rewrites of one store. -/
structure Guarded (r : ι → Rewrite) (paths : StorePaths) (steps : List (ι × Event)) (m : Contest ι) :
    Prop where
  sound : m.world.files.Sound
  /-- Every rewrite goes on abiding by the rules of the staging file. -/
  engaged : ∀ i, Engaged paths (r i) (m.handed i) (m.program i) (own i steps).standing
  /-- The staging file of whoever holds it lies at the staging path. -/
  kept : ∀ i, (own i steps).standing.Kept paths m.world.files
  /-- Only one rewrite at a time holds the staging file. -/
  alone : ∀ i j, (own i steps).standing.IsHolding → (own j steps).standing.IsHolding → i = j

namespace Guarded

theorem start (session : ι → Session) {world : World} (hsound : world.files.Sound) :
    Guarded r paths [] (ofWorld session world) where
  sound := hsound
  engaged i := .resting (.initial _)
  kept i file hholding := by cases hholding
  alone i j hholding := by
    obtain ⟨file, hfile⟩ := hholding
    cases hfile

theorem settled (hguarded : Guarded r paths steps m) {result : Except Failure Scenario.Result}
    (hidle : m.program i = .done (result, state)) :
    Settled (m.handed i) state (own i steps).standing := by
  have hsettled := (hguarded.engaged i).settled
  rwa [hidle] at hsettled

theorem told (hguarded : Guarded r paths steps m) (hstaging : (r i).staging = paths.staging)
    {result : Except Failure Scenario.Result} (move : Scenario.Move)
    (hidle : m.program i = .done (result, state))
    (hmay : move = .release → state.owned = true ∧ state.stream = none) :
    Guarded r paths steps (m.told r i move state) := by
  refine ⟨hguarded.sound, fun j => ?_, hguarded.kept, hguarded.alone⟩
  by_cases hne : j = i
  · subst hne
    rw [program_told_self, handed_told_self]
    exact .of_move hstaging (hguarded.settled hidle) move hmay
  · rw [program_told_of_ne hne, handed_told_of_ne hne]
    exact hguarded.engaged j

theorem toldCommit (hguarded : Guarded r paths steps m) {result : Except Failure Scenario.Result}
    (hidle : m.program i = .done (result, state)) (hhanded : m.handed i = true) :
    Guarded r paths steps (m.toldCommit paths i state) := by
  refine ⟨hguarded.sound, fun j => ?_, hguarded.kept, hguarded.alone⟩
  by_cases hne : j = i
  · subst hne
    have hsettled := hguarded.settled hidle
    rw [hhanded] at hsettled
    simpa [Contest.toldCommit] using Engaged.of_commit (r := r j) hsettled
  · simpa [Contest.toldCommit, hne] using hguarded.engaged j

variable {e : Event} {next : e.call.Answer → Program (Except Failure Scenario.Result × State)} {s' : Scene}

theorem admits (hguarded : Guarded r (locate root) steps m) (hstaging : (r i).staging = (locate root).staging)
    (hprogram : m.program i = .call e.call next)
    (hanswer : Scene.Answers .foreign ⟨m.world, m.session i⟩ e s') :
    e.call.Admits (own i steps).standing e.answer := by
  have hengaged := hguarded.engaged i
  rw [hprogram] at hengaged
  exact hanswer.admits hguarded.sound (hguarded.kept i) (hengaged.fits hstaging)

theorem custody (hguarded : Guarded r (locate root) steps m) (hstaging : (r i).staging = (locate root).staging)
    (hprogram : m.program i = .call e.call next)
    (hanswer : Scene.Answers .foreign ⟨m.world, m.session i⟩ e s') :
    Custody (locate root) (own i steps).standing m.world.files e s'.world.files := by
  have hengaged := hguarded.engaged i
  rw [hprogram] at hengaged
  exact hanswer.custody hguarded.sound (hguarded.kept i) (hengaged.fits hstaging)

/-- While one rewrite holds the staging file, no other comes to hold it. -/
theorem next_not_holding (hguarded : Guarded r (locate root) steps m)
    (hcustody : Custody (locate root) (own i steps).standing m.world.files e s'.world.files) {j : ι} (hne : j ≠ i)
    (hholding : (own j steps).standing.IsHolding) : ¬((own i steps).standing.next e).IsHolding := by
  intro hnext
  have hbefore : ¬(own i steps).standing.IsHolding := fun h => hne (hguarded.alone j i hholding h)
  obtain ⟨directory, hlead, hfree⟩ := hcustody.free_of_next hbefore hnext
  obtain ⟨file, hfile⟩ := hholding
  obtain ⟨directory', hlead', hentry⟩ := hguarded.kept j file hfile
  rw [← hlead.unique hlead', hfree] at hentry
  cases hentry

/-- While one rewrite holds the staging file, the calls of the others leave the files as they are. -/
theorem kept_of_ne (hguarded : Guarded r (locate root) steps m)
    (hcustody : Custody (locate root) (own i steps).standing m.world.files e s'.world.files) {j : ι}
    (hne : j ≠ i) : (own j steps).standing.Kept (locate root) s'.world.files := by
  intro file hfile
  have hbefore : ¬(own i steps).standing.IsHolding := fun h => hne (hguarded.alone j i ⟨file, hfile⟩ h)
  rw [hcustody.eq_of_outside hbefore (hguarded.next_not_holding hcustody hne ⟨file, hfile⟩)]
  exact hguarded.kept j file hfile

theorem call (hguarded : Guarded r (locate root) steps m) (hstaging : (r i).staging = (locate root).staging)
    (hprogram : m.program i = .call e.call next)
    (hanswer : Scene.Answers .foreign ⟨m.world, m.session i⟩ e s') :
    Guarded r (locate root) (steps ++ [(i, e)])
      { m with
        world := s'.world
        session := Function.update m.session i s'.session
        program := Function.update m.program i (next e.answer) } := by
  have hcustody := hguarded.custody hstaging hprogram hanswer
  refine ⟨hcustody.sound hguarded.sound, fun j => ?_, fun j => ?_, fun j k hj hk => ?_⟩
  · by_cases hne : j = i
    · subst hne
      have hengaged := hguarded.engaged j
      rw [hprogram] at hengaged
      have hnext := hengaged.of_answer hstaging (hguarded.admits hstaging hprogram hanswer)
      rw [standing_own_append_self, Standing.next_struck]
      simpa only [Function.update_self] using hnext
    · simpa [hne, own_append_of_ne hne] using hguarded.engaged j
  · by_cases hne : j = i
    · subst hne
      rw [standing_own_append_self]
      exact hcustody.kept (hguarded.kept j)
    · rw [own_append_of_ne hne]
      exact hguarded.kept_of_ne hcustody hne
  · exact eq_of_standing_append Standing.IsHolding hguarded.alone (fun j hne => hguarded.next_not_holding hcustody hne) hj hk

theorem step (hguarded : Guarded r (locate root) steps m) (hstaging : ∀ i, (r i).staging = (locate root).staging)
    {step? : Option (ι × Event)} (hstep : Step r (locate root) m step? m') :
    Guarded r (locate root) (steps ++ step?.toList) m' := by
  cases hstep with
  | move move hidle hmay =>
    rw [Option.toList_none, List.append_nil]
    exact hguarded.told (hstaging _) move hidle hmay
  | commit hidle hhanded =>
    rw [Option.toList_none, List.append_nil]
    exact hguarded.toldCommit hidle hhanded
  | call hprogram hanswer => exact hguarded.call (hstaging _) hprogram hanswer

theorem of_run (hstaging : ∀ i, (r i).staging = (locate root).staging) (session : ι → Session) {world : World}
    (hsound : world.files.Sound) (hrun : Run r (locate root) (ofWorld session world) steps m) :
    Guarded r (locate root) steps m := by
  induction hrun with
  | start => exact start session hsound
  | step _ hstep ih => exact ih.step hstaging hstep

end Guarded

/-- The order among rewrites of one store at a point of a run. -/
structure Orderly (r : ι → Rewrite) (paths : StorePaths) (steps : List (ι × Event)) (m : Contest ι) :
    Prop where
  /-- At most one rewrite owns the staging file. -/
  unique : ∀ i j, m.Owns i → m.Owns j → i = j
  /-- The staging file of a rewrite that owns it exists, and it is the one that this rewrite created. -/
  created : ∀ i, m.Owns i → ∃ file, (own i steps).standing = .holding file ∧
    m.world.files.fileId? paths.staging = some file
  /-- Being told to acquire the store does not change who owns the staging file, -/
  told : ∀ i result state, m.program i = .done (result, state) →
    ∀ j, (m.told r i .acquire state).Owns j ↔ m.Owns j
  /-- and an acquisition that then finds the store held by somebody else changes neither the files nor who
      owns the staging file. Nothing but an acquisition does find that. -/
  refused : ∀ i e m' path state, Step r paths m (some (i, e)) m' →
    m'.program i = .done (.error (.credential (.busy path)), state) →
      m.program i = Scenario.Move.acquire.action (r i) state ∧ m'.world.files = m.world.files ∧
        ∀ j, m'.Owns j ↔ m.Owns j
  /-- A discard without ownership is at its end without a call. -/
  spared : ∀ i result state, m.program i = .done (result, state) → ¬m.Owns i →
    Scenario.Move.discard.action (r i) state = .done (.ok .nothing, state)

theorem owns_iff_of_state_eq {j : ι} (hother : ∀ j, j ≠ i → m'.program j = m.program j)
    (hsame : (m'.program i).state = (m.program i).state) : m'.Owns j ↔ m.Owns j := by
  by_cases hne : j = i
  · subst hne
    rw [Owns, Owns, hsame]
  · rw [Owns, Owns, hother j hne]

theorem Guarded.holding_of_owns (hguarded : Guarded r paths steps m) (howns : m.Owns i) :
    (own i steps).standing.IsHolding :=
  (hguarded.engaged i).settled.owned howns

/-- Whatever rewrites of one store are told to do and however their calls come between each other, with
    failures at any calls, the staging file is owned by one of them at most, who created it; an acquisition
    that is refused changes nothing, and a discard without ownership does nothing. -/
theorem orderly_of_run (hstaging : ∀ i, (r i).staging = (locate root).staging) (session : ι → Session)
    {world : World} (hsound : world.files.Sound)
    (hrun : Run r (locate root) (ofWorld session world) steps m) : Orderly r (locate root) steps m := by
  have hguarded := Guarded.of_run hstaging session hsound hrun
  refine ⟨fun i j hi hj => ?_, fun i howns => ?_, fun i result state hidle j => ?_,
    fun i e m' path state hstep hbusy => ?_, fun i result state hidle howns => ?_⟩
  · exact hguarded.alone i j (hguarded.holding_of_owns hi) (hguarded.holding_of_owns hj)
  · obtain ⟨file, hfile⟩ := hguarded.holding_of_owns howns
    obtain ⟨directory, hlead, hentry⟩ := hguarded.kept i file hfile
    exact ⟨file, hfile, by rw [FileSystem.fileId?_of_locate hlead.staging, hentry]⟩
  · refine owns_iff_of_state_eq (fun j hne => program_told_of_ne hne _) ?_
    rw [program_told_self, Engaged.acquire_action_eq, hidle]
    rfl
  · cases hstep with
    | call hprogram hanswer =>
      have hengaged := hguarded.engaged i
      have hadmits := hguarded.admits (hstaging i) hprogram hanswer
      rw [hprogram] at hengaged
      simp only [Function.update_self] at hbusy
      obtain ⟨hacquire, mode, failure, hcreate⟩ := hengaged.acquiring_of_busy (hstaging i) hadmits hbusy
      refine ⟨hprogram.trans hacquire, ?_, fun j => owns_iff_of_state_eq (i := i) (fun j hne => ?_) ?_⟩
      · obtain ⟨c, answer, struck⟩ := e
        cases hcreate
        exact hanswer.files_of_refused
      · simp [hne]
      · simp only [Function.update_self]
        rw [hbusy, hprogram, hacquire, Engaged.acquire_action_eq]
        rfl
  · have howned : state.owned = false := by
      rw [Owns, hidle, Bool.not_eq_true] at howns
      exact howns
    show (r i).discard state >>= _ = _
    rw [discard_of_not_owned howned (hguarded.settled hidle)]
    rfl

/-- What a rewrite was told it can do to the end while the others wait. -/
theorem Run.of_runs {first : Contest ι} (hrun : Run r paths first steps m) {tr : Trace}
    {value : Except Failure Scenario.Result × State} {s' : Scene}
    (hruns : (m.program i).Runs .foreign ⟨m.world, m.session i⟩ tr value s') :
    ∃ steps' m', Run r paths first steps' m' ∧ m'.world = s'.world ∧
      m'.program = Function.update m.program i (.done value) ∧
      m'.session = Function.update m.session i s'.session := by
  generalize hprogram : m.program i = p at hruns
  induction p generalizing steps m tr with
  | done last =>
    cases hruns
    exact ⟨steps, m, hrun, rfl, by rw [← hprogram, Function.update_eq_self], by rw [Function.update_eq_self]⟩
  | call c next ih =>
    cases hruns with
    | @call _ s₁ _ e _ rest _ hanswer hrest =>
      have hnext := hrun.step (.call hprogram hanswer)
      have hscene : s₁ = ⟨s₁.world, Function.update m.session i s₁.session i⟩ := by
        rw [Function.update_self]
      rw [hscene] at hrest
      obtain ⟨steps', m', hrun', hworld, hdone, hsession⟩ := ih e.answer hnext (Function.update_self i _ _) hrest
      exact ⟨steps', m', hrun', hworld, by simpa using hdone, by simpa using hsession⟩

/-- A store without files, at the root. -/
def emptyWorld : World := { files := { entries := [], files := [], umask := 0 } }

def sampleRewrite : Rewrite where
  primary := (locate (text "/")).primary
  staging := (locate (text "/")).staging
  identity := text "bob"
  realm := text "sys"
  mode := 0o600

/-- An acquisition of a store where nothing lies, and another one after it. -/
theorem run_sampleRewrite :
    ((⟨emptyWorld, {}⟩ : Scene).run {} (Scenario.Move.acquire.action sampleRewrite)).1 =
        (.ok .nothing, ⟨some 0, true, false⟩) ∧
      ((⟨((⟨emptyWorld, {}⟩ : Scene).run {} (Scenario.Move.acquire.action sampleRewrite)).2.world, {}⟩ : Scene).run
        {} (Scenario.Move.acquire.action sampleRewrite)).1 =
          (.error (.credential (.busy sampleRewrite.staging)), {}) := by
  decide +kernel

/-- Of two rewrites one acquires the store, and then the other finds it held. -/
theorem sampleRewrites_orderly : ∃ steps m,
    Run (fun _ : Bool => sampleRewrite) (locate (text "/")) (ofWorld (fun _ => {}) emptyWorld) steps m ∧
      Orderly (fun _ => sampleRewrite) (locate (text "/")) steps m ∧ m.Owns true ∧
      m.program false = .done (.error (.credential (.busy sampleRewrite.staging)), {}) := by
  have hsound : emptyWorld.files.Sound := FileSystem.Sound.of_entries (by simp [emptyWorld]) (by simp [emptyWorld])
  obtain ⟨hheld, hbusy⟩ := run_sampleRewrite
  obtain ⟨tr, hacquire, -⟩ := (⟨emptyWorld, {}⟩ : Scene).runs_of_run .foreign {}
    (Scenario.Move.acquire.action sampleRewrite) rfl
  generalize (⟨emptyWorld, {}⟩ : Scene).run {} (Scenario.Move.acquire.action sampleRewrite) = held at *
  obtain ⟨⟨outcome, state⟩, scene⟩ := held
  cases hheld
  obtain ⟨tr', hrefused, -⟩ := (⟨scene.world, {}⟩ : Scene).runs_of_run .foreign {}
    (Scenario.Move.acquire.action sampleRewrite) rfl
  rw [hbusy] at hrefused
  have hstart : Run (fun _ : Bool => sampleRewrite) (locate (text "/")) (ofWorld (fun _ => {}) emptyWorld) []
      (ofWorld (fun _ => {}) emptyWorld) := .start
  have hfirst := hstart.step (.move (i := true) .acquire rfl fun h => by cases h)
  obtain ⟨steps, m, hrun, hworld, hprogram, hsession⟩ := hfirst.of_runs (i := true) hacquire
  have hidle : m.program false = .done (.ok .nothing, {}) := by
    rw [hprogram]
    rfl
  have hown : m.session false = {} := by
    rw [hsession]
    rfl
  have hsecond := hrun.step (.move .acquire hidle fun h => by cases h)
  have htold : (m.told (fun _ => sampleRewrite) false .acquire {}).program false =
      Scenario.Move.acquire.action sampleRewrite {} := program_told_self m _ false _ _
  rw [← htold, ← hworld, ← hown] at hrefused
  obtain ⟨steps', m', hrun', -, hprogram', -⟩ := hsecond.of_runs (i := false) hrefused
  refine ⟨steps', m', hrun', orderly_of_run (fun _ => rfl) (fun _ => {}) hsound hrun', ?_, ?_⟩
  · rw [Owns, hprogram', Function.update_of_ne (by decide), program_told_of_ne (by decide), hprogram,
      Function.update_self]
    rfl
  · rw [hprogram', Function.update_self]

end Contest

end CredentialStore
