import CredentialStore.Proofs.Run.Abiding
import CredentialStore.Proofs.Store.Parts
import CredentialStore.Scenario.Run

namespace CredentialStore

open CredentialStore.Action

/-- How the state of a rewrite goes together with how its program stands, and with whether it has handed the
    staging file over. -/
structure Rewrite.Settled (handed : Bool) (state : Rewrite.State) (st : Standing) : Prop where
  owned : state.owned = true → st.IsHolding
  stream : state.stream.isSome = true → state.owned = true
  handed : handed = true → st.IsHolding ∧ state.owned = false

namespace Rewrite

variable {r : Rewrite} {paths : StorePaths} {handed : Bool} {state state' : State} {st : Standing}

namespace Settled

theorem initial (st : Standing) : Settled false {} st :=
  ⟨fun h => (by cases h), fun h => (by cases h), fun h => (by cases h)⟩

theorem stream_eq_none (hsettled : Settled handed state st) (howned : state.owned = false) :
    state.stream = none := by
  rw [← Option.not_isSome_iff_eq_none]
  intro hstream
  rw [hsettled.stream hstream] at howned
  cases howned

theorem holding_of_stream (hsettled : Settled handed state st) {file : FileId} (hstream : state.stream = some file) :
    st.IsHolding :=
  hsettled.owned (hsettled.stream (by rw [hstream]; rfl))

/-- What is written last does not matter. -/
theorem of_needsNewline (hsettled : Settled handed state st) (needsNewline : Bool) :
    Settled handed { state with needsNewline } st :=
  ⟨hsettled.owned, hsettled.stream, hsettled.handed⟩

theorem of_closed (hsettled : Settled handed state st) : Settled handed { state with stream := none } st :=
  ⟨hsettled.owned, fun h => (by cases h), hsettled.handed⟩

/-- What is neither owned nor handed over need not be held. -/
theorem of_released {st' : Standing} (howned : state.owned = false) (hstream : state.stream = none) :
    Settled false state st' :=
  ⟨fun h => (by rw [howned] at h; cases h), fun h => (by rw [hstream] at h; cases h), fun h => (by cases h)⟩

end Settled

theorem onFile_ne_busy (action : Text) (e : SystemError) (path : Text) :
    Failure.credential (.onFile action e) ≠ .credential (.busy path) := by
  simp [CredentialError.onFile]

theorem steady_cannot {σ α : Type} {inv : σ → Standing → Prop} (action : Text) (e : SystemError) :
    (throw (.credential (.onFile action e)) : Action σ α).Steady paths inv :=
  steady_throw (onFile_ne_busy action e)

theorem steady_closeGivenUp (file : FileId) : (r.closeGivenUp file).Steady paths (Settled handed) :=
  steady_onSystemError (steady_ask (c := .closeStaging file) (fun _ _ _ => trivial) fun _ => rfl)
    fun _ => steady_note _

/-- Only a rewrite with a stream writes, and that one holds the staging file. -/
theorem steady_write (octets : Bytes) : (write octets).Steady paths (Settled handed) := by
  intro state st hsettled
  refine abides_get_bind ?_
  cases hstream : state.stream with
  | none => exact abides_throw ⟨hsettled, unrefused_error fun _ h => by cases h⟩
  | some file =>
    have hholding := hsettled.holding_of_stream hstream
    have hask : Steady paths (fun state st => Settled handed state st ∧ st.IsHolding)
        (ask (.write file octets) : Action State Unit) :=
      steady_ask (c := .write file octets) (fun _ _ hinv => hinv.2) fun _ => rfl
    refine abides_bind (Steady.thenAbides (steady_onSystemError hask fun e => steady_cannot _ e)
      (fun _ state' st' hinv => ?_) (fun _ _ _ hinv hunrefused => ⟨hinv.1, hunrefused.error⟩)
      ⟨hsettled, hholding⟩)
    cases octets.getLast? with
    | none => exact abides_pure ⟨hinv.1, unrefused_ok _⟩
    | some last => exact abides_modify ⟨hinv.1.of_needsNewline _, unrefused_ok _⟩

theorem steady_handleLine (number : Nat) (seen : Summary) (line : Bytes) :
    (r.handleLine number seen line).Steady paths (Settled handed) := by
  unfold handleLine
  cases r.fate seen.matched line with
  | copied => exact steady_bind (steady_write line) fun _ => steady_pure _
  | dropped => exact steady_bind (steady_note _) fun _ => steady_pure _
  | matched record => exact steady_pure _

theorem steady_handleLines (opened : OpenedFile) (limit offset number : Nat) (seen : Summary) :
    (r.handleLines opened limit offset number seen).Steady paths (Settled handed) := by
  induction limit generalizing offset number seen with
  | zero => exact steady_pure _
  | succ limit ih =>
    refine steady_bind (steady_ask (c := .fetchLine opened.id offset opened.size) (fun _ _ _ => trivial)
      fun _ => rfl) fun line => ?_
    split
    · exact steady_pure _
    · exact steady_bind (steady_handleLine number seen line) fun seen => ih _ _ seen

theorem steady_openPrimary : r.openPrimary.Steady paths (Settled handed) := by
  refine steady_onSystemError (steady_bind (steady_ask (c := .openPrimary r.primary) (fun _ _ _ => trivial)
    fun _ => rfl) fun _ => steady_pure _) fun cause => ?_
  split
  · exact steady_pure _
  · exact steady_cannot _ _

theorem steady_copyLines (opened : OpenedFile) : (r.copyLines opened).Steady paths (Settled handed) :=
  steady_thenAlways (steady_onSystemError (steady_handleLines opened _ 0 1 {}) fun e => steady_cannot _ e)
    (steady_ask (c := .closePrimary opened.id) (fun _ _ _ => trivial) fun _ => rfl)

theorem steady_copyStore : r.copyStore.Steady paths (Settled handed) := by
  refine steady_bind steady_openPrimary fun opened? => ?_
  cases opened? with
  | none => exact steady_pure _
  | some opened =>
    exact steady_bind (steady_copyLines opened) fun _ => steady_bind (steady_note _) fun _ => steady_pure _

theorem steady_merge : r.merge.Steady paths (Settled handed) := by
  intro state st hsettled
  rw [merge_eq]
  refine abides_get_bind ?_
  split
  · exact abides_throw ⟨hsettled, unrefused_error fun _ h => by cases h⟩
  · exact steady_copyStore hsettled

theorem steady_append (record : Record) : (append record).Steady paths (Settled handed) := by
  have hline : (writeLine record.toLine?).Steady paths (Settled handed) := by
    cases record.toLine? with
    | none => exact steady_throw fun _ h => by cases h
    | some line => exact steady_write line
  intro state st hsettled
  rw [append_eq]
  refine abides_get_bind ?_
  split
  · exact steady_bind (steady_write [lineFeed]) (fun _ => hline) hsettled
  · exact hline hsettled

theorem steady_close : r.close.Steady paths (Settled handed) := by
  intro state st hsettled
  refine abides_get_bind ?_
  cases state.stream with
  | none => exact abides_pure ⟨hsettled, unrefused_ok _⟩
  | some file =>
    refine abides_modify_bind (steady_bind (steady_onSystemError (steady_bind ?_ fun _ => ?_) fun e => ?_)
      (fun _ => ?_) hsettled.of_closed)
    · exact steady_ask (c := .flush file) (fun _ _ _ => trivial) fun _ => rfl
    · exact steady_ask (c := .sync file) (fun _ _ _ => trivial) fun _ => rfl
    · exact steady_bind (steady_closeGivenUp file) fun _ => steady_cannot _ e
    · exact steady_onSystemError (steady_ask (c := .closeStaging file) (fun _ _ _ => trivial) fun _ => rfl)
        fun e => steady_cannot _ e

end Rewrite

/-- Whoever holds the staging file may remove it, and does not mind how that ends. -/
theorem abides_removeStaging {σ : Type} {paths : StorePaths} {state : σ} {st : Standing} (part : Log.Part)
    (hholding : st.IsHolding) {post : Except Failure Unit → σ → Standing → Prop}
    (hpost : ∀ outcome st', Unrefused outcome → post outcome state st') :
    (removeStaging part paths.staging).Abides paths post state st := by
  have hnote : ∀ st', (note (.removeFailed part paths.staging) : Action σ Unit).Abides paths post state st' :=
    fun st' => abides_ask (c := .log (.removeFailed part paths.staging)) trivial fun answer hadmits =>
      hpost answer _ (unrefused_of_admits hadmits)
  refine abides_onSystemError (abides_ask (c := .unlinkStaging paths.staging) ⟨rfl, hholding⟩ ?_)
  rintro (failure | _) hadmits
  · cases failure with
    | system cause =>
      cases cause with
      | unnumbered description => exact hnote _
      | numbered errno => cases errno <;> first | exact abides_pure (hpost _ _ (unrefused_ok ())) | exact hnote _
    | _ => exact hpost _ _ (unrefused_of_admits hadmits)
  · exact hpost _ _ (unrefused_ok ())

namespace Rewrite

variable {r : Rewrite} {paths : StorePaths} {handed : Bool} {state : State} {st : Standing}

/-- A rewrite that owns its staging file gives it up by removing it; nobody asks whether it is still there. -/
theorem steady_removeOwned (hstaging : r.staging = paths.staging) : r.removeOwned.Steady paths fun state st =>
    Settled handed state st ∧ state.stream = none := by
  rintro state st ⟨hsettled, hstream⟩
  refine abides_get_bind ?_
  split
  · rename_i howned
    rw [hstaging]
    have hhanded : handed = false := by
      rw [← Bool.not_eq_true]
      intro hhanded
      rw [(hsettled.handed hhanded).2] at howned
      cases howned
    subst hhanded
    refine abides_modify_bind (abides_removeStaging _ (hsettled.owned howned) fun outcome st' hunrefused => ?_)
    exact ⟨⟨.of_released rfl hstream, hstream⟩, hunrefused⟩
  · exact abides_pure ⟨⟨hsettled, hstream⟩, unrefused_ok _⟩

theorem steady_discard (hstaging : r.staging = paths.staging) :
    r.discard.Steady paths (Settled handed) := by
  have hremove : ∀ {state st}, Settled handed state st → state.stream = none →
      r.removeOwned.Abides paths (fun outcome state' st' => Settled handed state' st' ∧ Unrefused outcome)
        state st := fun hsettled hstream =>
    (steady_removeOwned hstaging ⟨hsettled, hstream⟩).mono fun _ _ _ hpost => ⟨hpost.1.1, hpost.2⟩
  have hclose : ∀ file, (r.closeGivenUp file).Steady paths fun state st =>
      Settled handed state st ∧ state.stream = none := fun file =>
    steady_onSystemError (steady_ask (c := .closeStaging file) (fun _ _ _ => trivial) fun _ => rfl)
      fun _ => steady_note _
  intro state st hsettled
  rw [discard_eq]
  refine abides_get_bind ?_
  cases hstream : state.stream with
  | none => exact hremove hsettled hstream
  | some file =>
    refine abides_modify_bind (abides_bind ((hclose file).thenAbides (fun _ _ _ hinv => hremove hinv.1 hinv.2)
      (fun _ _ _ hinv hunrefused => ⟨hinv.1, hunrefused⟩) ⟨hsettled.of_closed, rfl⟩))

/-- A discard without ownership makes no call. -/
theorem discard_of_not_owned (howned : state.owned = false) (hsettled : Settled handed state st) :
    r.discard state = .done (.ok (), state) := by
  obtain ⟨stream, owned, needsNewline⟩ := state
  cases hsettled.stream_eq_none howned
  cases howned
  rfl

/-- A created staging file is opened, or given up. -/
theorem abides_openStream (hstaging : r.staging = paths.staging) (hsettled : Settled false state st)
    (howned : state.owned = true) (file : FileId) :
    (r.openStream file).Abides paths (fun outcome state' st' => Settled false state' st' ∧ Unrefused outcome)
      state st := by
  have hopen : (ask (.openStream file) : Action State Unit).Steady paths fun state st =>
      Settled false state st ∧ state.owned = true :=
    steady_ask (c := .openStream file) (fun _ _ _ => trivial) fun _ => rfl
  have habandon : (ask (.abandonStream file) : Action State Unit).Steady paths (Settled false) :=
    steady_ask (c := .abandonStream file) (fun _ _ _ => trivial) fun _ => rfl
  refine abides_onSystemError (abides_bind (hopen.thenAbides (fun _ state' st' hinv => ?_)
    (fun failure state' st' hinv hunrefused => ?_) ⟨hsettled, howned⟩))
  · refine abides_modify ⟨⟨hinv.1.owned, fun _ => hinv.2, fun h => (by cases h)⟩, unrefused_ok _⟩
  · cases failure with
    | system cause =>
      exact steady_bind habandon (fun _ => steady_bind (steady_discard hstaging) fun _ => steady_cannot _ cause)
        hinv.1
    | _ => exact ⟨hinv.1, hunrefused⟩

/-- What an acquisition does once it is known whether the staging file was created. -/
def afterCreation (r : Rewrite) : Except Failure FileId → Action State Unit
  | .ok file => do
    modify fun s => { s with owned := true }
    r.openStream file
  | .error (.system (.numbered .alreadyExists)) => refuse (.busy r.staging)
  | .error (.system e) => throw (cannotOpen e)
  | .error failure => throw failure

theorem acquire_eq (r : Rewrite) (state : State) :
    r.acquire state = .call (.createStaging r.staging r.mode) fun answer => r.afterCreation answer state := by
  refine congrArg (Program.call (.createStaging r.staging r.mode)) (funext fun answer => ?_)
  rcases answer with failure | file
  · cases failure with
    | system e =>
      cases e with
      | numbered errno => cases errno <;> rfl
      | unnumbered description => rfl
    | _ => rfl
  · rfl

/-- An acquisition that is not refused because somebody else holds the store. -/
theorem abides_afterCreation (hstaging : r.staging = paths.staging) (hsettled : Settled handed state st)
    {answer : Except Failure FileId} (hadmits : (Call.createStaging r.staging r.mode).Admits st answer)
    (hfree : answer ≠ .error (.numbered .alreadyExists)) :
    (r.afterCreation answer).Abides paths (fun outcome state' st' => Settled handed state' st' ∧
      Unrefused outcome) state (st.next ⟨.createStaging r.staging r.mode, answer, false⟩) := by
  have hrefused : ∀ failure : Failure, (∀ path, failure ≠ .credential (.busy path)) →
      (throw failure : Action State Unit).Abides paths (fun outcome state' st' => Settled handed state' st' ∧
        Unrefused outcome) state st := fun failure hfailure => steady_throw hfailure hsettled
  rcases answer with failure | file
  · cases failure with
    | system e =>
      cases e with
      | numbered errno => cases errno <;> first | exact absurd rfl hfree | exact hrefused _ (onFile_ne_busy _ _)
      | unnumbered description => exact hrefused _ (onFile_ne_busy _ _)
    | credential error => exact absurd rfl (hadmits.2 error)
    | _ => exact hrefused _ fun _ h => by cases h
  · have hunheld := hadmits.1 file rfl
    have hhanded : handed = false := by
      rw [← Bool.not_eq_true]
      exact fun hhanded => hunheld (hsettled.handed hhanded).1
    subst hhanded
    have hstream : state.stream = none := by
      refine hsettled.stream_eq_none ?_
      rw [← Bool.not_eq_true]
      exact fun howned => hunheld (hsettled.owned howned)
    refine abides_modify_bind (abides_openStream hstaging ⟨fun _ => ⟨file, rfl⟩, fun _ => rfl, ?_⟩ rfl file)
    exact fun h => by cases h

end Rewrite

namespace Commit

open Rewrite

variable {paths : StorePaths}

/-- While a commit has not come to its end, the staging file is held and not owned. -/
theorem steady_step {c : Call} (hfits : ∀ st : Standing, st.IsHolding → c.Fits paths st)
    (hturn : ∀ answer, Event.turn? ⟨c, answer, false⟩ = none) :
    (ask c : Action Rewrite.State c.Reply).Steady paths (Settled true) :=
  steady_ask (fun _ st hsettled => hfits st (hsettled.handed rfl).1) hturn

theorem steady_removeBackup : (removeBackup paths : Action Rewrite.State Unit).Steady paths (Settled true) := by
  refine steady_onSystemError (steady_step (c := .unlinkBackup paths.backup) (fun _ h => ⟨rfl, h⟩) fun _ => rfl)
    fun cause => ?_
  split
  · exact steady_pure _
  · exact steady_cannot _ _

theorem steady_copyPrimary : (copyPrimary paths : Action Rewrite.State Bool).Steady paths (Settled true) := by
  refine steady_onSystemError (steady_bind (steady_step (c := .copyBackup paths.primary paths.backup)
    (fun _ h => h) fun _ => rfl) fun _ => steady_pure _) fun cause => ?_
  split
  · exact steady_pure _
  · exact steady_cannot _ _

theorem steady_backUpPrimary :
    (backUpPrimary paths : Action Rewrite.State Bool).Steady paths (Settled true) := by
  have hlink : (ask (.linkBackup paths.primary paths.backup) : Action Rewrite.State Unit).Steady paths
      (Settled true) := steady_step (c := .linkBackup paths.primary paths.backup) (fun _ h => h) fun _ => rfl
  have hother : ∀ e : SystemError, Steady paths (Settled true)
      (if isLinkUnsupported e then do
        note (.linkUnsupported paths.backup e.description)
        copyPrimary paths
      else throw (cannotBackUp e) : Action Rewrite.State Bool) := by
    intro e
    split
    · exact steady_bind (steady_note _) fun _ => steady_copyPrimary
    · exact steady_cannot _ e
  intro state st hsettled
  refine abides_bind (abides_attempt ((hlink hsettled).mono ?_))
  rintro (failure | _) state' st' ⟨hsettled, hunrefused⟩
  · cases failure with
    | system e =>
      cases e with
      | unnumbered description => exact hother _ hsettled
      | numbered errno =>
        cases errno <;> first | exact steady_pure false hsettled | exact hother _ hsettled
    | _ => exact steady_throw (fun path h => hunrefused path (congrArg _ h)) hsettled
  · exact steady_pure true hsettled

/-- The last step lets go of the staging file where it succeeds. -/
theorem abides_steps {state : Rewrite.State} {st : Standing} (hsettled : Settled true state st) :
    (steps paths : Action Rewrite.State Bool).Abides paths (fun outcome state' st' =>
      Unrefused outcome ∧ (∀ backedUp, outcome = .ok backedUp → Settled false state' st') ∧
        ∀ failure, outcome = .error failure → Settled true state' st') state st := by
  have hfailed : ∀ {failure : Failure} {state' st'}, Settled true state' st' →
      Unrefused (.error failure : Except Failure Bool) →
      Unrefused (.error failure : Except Failure Bool) ∧
        (∀ backedUp, (.error failure : Except Failure Bool) = .ok backedUp → Settled false state' st') ∧
        ∀ failure', (.error failure : Except Failure Bool) = .error failure' → Settled true state' st' :=
    fun hsettled hunrefused => ⟨hunrefused, fun _ h => (by cases h), fun _ _ => hsettled⟩
  refine abides_bind (steady_removeBackup.thenAbides (fun _ state st hsettled => ?_)
    (fun _ _ _ hsettled hunrefused => hfailed hsettled hunrefused.error) hsettled)
  refine abides_bind (steady_backUpPrimary.thenAbides (fun backedUp state st hsettled => ?_)
    (fun _ _ _ hsettled hunrefused => hfailed hsettled hunrefused.error) hsettled)
  refine abides_bind (abides_onSystemError (abides_ask (c := .install paths.staging paths.primary)
    ⟨⟨rfl, rfl⟩, (hsettled.handed rfl).1⟩ ?_))
  rintro (failure | _) hadmits
  · cases failure with
    | system cause => exact abides_throw (hfailed hsettled (unrefused_error (onFile_ne_busy _ _)))
    | _ => exact hfailed hsettled (unrefused_of_admits hadmits).error
  · have howned := (hsettled.handed rfl).2
    have hreleased : Settled false state .installed := .of_released howned (hsettled.stream_eq_none howned)
    exact ⟨unrefused_ok _, fun _ _ => hreleased, fun _ h => (by cases h)⟩

/-- A commit of what was handed over leaves nothing to be committed. -/
theorem abides_commit {state : Rewrite.State} {st : Standing} (hsettled : Settled true state st) :
    (commit paths : Action Rewrite.State Unit).Abides paths (fun outcome state' st' =>
      Settled false state' st' ∧ Unrefused outcome) state st := by
  refine abides_bind (abides_orCleanUp ((abides_steps hsettled).mono ?_))
  rintro (failure | backedUp) state' st' ⟨hunrefused, hok, hfailed⟩
  · have hsettled' := hfailed failure rfl
    have howned := (hsettled'.handed rfl).2
    rw [discard_eq]
    refine abides_removeStaging _ (hsettled'.handed rfl).1 fun outcome st'' hcleaned => ?_
    have hreleased : Settled false state' st'' := .of_released howned (hsettled'.stream_eq_none howned)
    cases outcome with
    | ok _ => exact abides_throw ⟨hreleased, hunrefused.error⟩
    | error worse => exact ⟨hreleased, hcleaned.error⟩
  · exact steady_note _ (hok backedUp rfl)

end Commit

end CredentialStore
