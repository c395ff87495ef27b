import CredentialStore.Proofs.Run.Telling
import CredentialStore.Proofs.Store.Using

namespace CredentialStore

open CredentialStore.Action

/-- Forcing what was written to the staging file out to the disk. -/
def Call.Syncs : Call → Prop
  | sync _ => True
  | _ => False

theorem Call.Syncs.faultPoint?_eq {c : Call} (hsyncs : c.Syncs) : c.faultPoint? = some .sync := by
  cases c <;> first | exact False.elim hsyncs | rfl

namespace Trace

/-- Whether the staging file was synced. -/
def Synced (tr : Trace) : Prop := ∃ e ∈ tr, e.call.Syncs ∧ ∃ reply, e.answer = .ok reply

theorem synced_append {tr rest : Trace} : Synced (tr ++ rest) ↔ tr.Synced ∨ rest.Synced := by
  simp only [Synced, List.mem_append, or_and_right, exists_or]

theorem not_synced_of_calls {tr : Trace} (hcalls : ∀ e ∈ tr, ¬e.call.Syncs) : ¬tr.Synced :=
  fun ⟨e, he, hsyncs, _⟩ => hcalls e he hsyncs

/-- Whether it is noted only of staging files that were not synced that they could not be closed. -/
def NotesUnsynced (tr : Trace) : Prop :=
  ∀ (first rest : Trace) (e : Event) staging, tr = first ++ e :: rest →
    e.call = .log (.closeFailed staging) → ¬first.Synced

theorem notesUnsynced_of_not_synced {tr : Trace} (hsynced : ¬tr.Synced) : tr.NotesUnsynced := by
  rintro first rest e staging rfl -
  exact fun hfirst => hsynced (synced_append.2 (.inl hfirst))

/-- Whether it is not noted that a staging file could not be closed. -/
def Unnoted (tr : Trace) : Prop := ∀ e ∈ tr, ∀ staging, e.call ≠ .log (.closeFailed staging)

theorem Unnoted.append {tr rest : Trace} (htr : tr.Unnoted) (hrest : rest.Unnoted) :
    Unnoted (tr ++ rest) :=
  fun e he => (List.mem_append.1 he).elim (htr e) (hrest e)

theorem notesUnsynced_of_unnoted {tr : Trace} (hunnoted : tr.Unnoted) : tr.NotesUnsynced := by
  rintro first rest e staging rfl hnote
  exact absurd hnote (hunnoted e (by simp) staging)

theorem NotesUnsynced.append {tr rest : Trace} (htr : tr.NotesUnsynced) (hrest : rest.NotesUnsynced)
    (hapart : tr.Synced → rest.Unnoted) :
    NotesUnsynced (tr ++ rest) := by
  intro first last e staging hsplit hnote
  obtain ⟨middle, rfl, rfl⟩ | ⟨middle, rfl, rfl⟩ := before_or_behind hsplit.symm
  · exact htr first middle e staging rfl hnote
  · rw [synced_append]
    rintro (hsynced | hsynced)
    · exact hapart hsynced e (by simp) staging hnote
    · exact hrest middle last e staging rfl hnote hsynced

end Trace

namespace Rewrite

variable {r : Rewrite} {strikes : Strikes} {state state' : State} {s s' : Scene} {tr : Trace}

theorem state_of_closeGivenUp {file : FileId} {outcome : Except Failure Unit}
    (hruns : (r.closeGivenUp file).Runs strikes state s tr outcome state' s') : state' = state := by
  obtain ⟨_, -, hask⟩ | ⟨_, -, -, hask⟩ | ⟨_, state₁, s₁, tr₁, tr₂, -, hask, hnote⟩ :=
    Runs.of_onSystemError hruns
  · exact (Runs.of_ask hask).1
  · exact (Runs.of_ask hask).1
  · rw [(Runs.of_ask hnote).1, (Runs.of_ask hask).1]

theorem of_syncs {file : FileId} {outcome : Except Failure Unit}
    (hruns : Action.Runs strikes (do
      Action.ask (.flush file)
      Action.ask (.sync file)) state s tr outcome state' s') :
    state' = state ∧ tr.Unnoted ∧ ∀ failure, outcome = .error failure → ¬tr.Synced := by
  obtain ⟨_, state₁, s₁, tr₁, tr₂, rfl, hflush, hsync⟩ | ⟨failure, rfl, hflush⟩ := hruns.of_bind
  · obtain ⟨rfl, struck, rfl, -⟩ := Runs.of_ask hflush
    obtain ⟨rfl, struck', rfl, -⟩ := Runs.of_ask hsync
    refine ⟨rfl, by simp [Trace.Unnoted], ?_⟩
    rintro failure rfl ⟨e, he, hsyncs, reply, hanswer⟩
    simp only [List.cons_append, List.nil_append, List.mem_cons, List.not_mem_nil, or_false] at he
    rcases he with rfl | rfl
    · exact hsyncs
    · cases hanswer
  · obtain ⟨rfl, struck, rfl, -⟩ := Runs.of_ask hflush
    exact ⟨rfl, by simp [Trace.Unnoted], fun _ _ => Trace.not_synced_of_calls (by simp [Call.Syncs])⟩

theorem of_closing {file : FileId} {outcome : Except Failure Unit}
    (hruns : ((Action.ask (.closeStaging file)).onSystemError fun e => throw (cannotWrite e) :
      Action State Unit).Runs strikes state s tr outcome state' s') : state' = state ∧ tr.Unnoted := by
  obtain ⟨_, -, hask⟩ | ⟨_, -, -, hask⟩ | ⟨_, state₁, s₁, tr₁, tr₂, rfl, hask, hthrow⟩ :=
    Runs.of_onSystemError hruns
  · obtain ⟨rfl, struck, rfl, -⟩ := Runs.of_ask hask
    exact ⟨rfl, by simp [Trace.Unnoted]⟩
  · obtain ⟨rfl, struck, rfl, -⟩ := Runs.of_ask hask
    exact ⟨rfl, by simp [Trace.Unnoted]⟩
  · obtain ⟨rfl, struck, rfl, -⟩ := Runs.of_ask hask
    obtain ⟨rfl, -, rfl, -⟩ := Runs.of_throw hthrow
    exact ⟨rfl, by simp [Trace.Unnoted]⟩

theorem of_givingUp {file : FileId} {cause : SystemError} {outcome : Except Failure Unit}
    (hruns : Action.Runs strikes (do
      r.closeGivenUp file
      throw (cannotWrite cause)) state s tr outcome state' s') :
    state' = state ∧ (∃ failure, outcome = .error failure) ∧ ¬tr.Synced := by
  have huses : Action.Uses (¬·.Syncs) (do
      r.closeGivenUp file
      throw (cannotWrite cause) : Action State Unit) :=
    uses_bind (uses_closeGivenUp (fun h => h) (fun h => h)) fun _ => uses_throw _
  have hunsynced : ¬tr.Synced := Trace.not_synced_of_calls (hruns.calls huses)
  obtain ⟨_, _, _, _, _, -, hclose, hthrow⟩ | ⟨failure, rfl, hclose⟩ := hruns.of_bind
  · obtain ⟨-, rfl, rfl, -⟩ := Runs.of_throw hthrow
    exact ⟨state_of_closeGivenUp hclose, ⟨_, rfl⟩, hunsynced⟩
  · exact ⟨state_of_closeGivenUp hclose, ⟨failure, rfl⟩, hunsynced⟩

/-- After the staging file was closed it is not open, and it is given up only where it was not synced. -/
theorem of_close {outcome : Except Failure Unit}
    (hruns : r.close.Runs strikes state s tr outcome state' s') :
    state'.stream = none ∧ tr.NotesUnsynced := by
  have hclosed := Runs.of_get_bind hruns
  cases hstream : state.stream with
  | none =>
    simp only [hstream] at hclosed
    obtain ⟨rfl, -, rfl, -⟩ := Runs.of_pure hclosed
    exact ⟨hstream, Trace.notesUnsynced_of_unnoted (by simp [Trace.Unnoted])⟩
  | some file =>
    simp only [hstream] at hclosed
    obtain ⟨_, state₁, s₁, tr₁, tr₂, rfl, hsynced, hrest⟩ | ⟨failure, rfl, hfailed⟩ :=
      (Runs.of_modify_bind hclosed).of_bind
    · obtain ⟨rfl, hunnoted⟩ := of_closing hrest
      obtain ⟨value, hvalue, hsync⟩ | ⟨_, -, herror, -⟩ | ⟨cause, _, _, _, _, -, -, hhandler⟩ :=
        Runs.of_onSystemError hsynced
      · obtain ⟨rfl, hsyncing, -⟩ := of_syncs hsync
        exact ⟨rfl, Trace.notesUnsynced_of_unnoted (hsyncing.append hunnoted)⟩
      · cases herror
      · obtain ⟨-, ⟨_, herror⟩, -⟩ := of_givingUp hhandler
        cases herror
    · obtain ⟨_, hvalue, -⟩ | ⟨_, -, -, hsync⟩ | ⟨cause, state₁, s₁, tr₁, tr₂, rfl, hsync, hhandler⟩ :=
        Runs.of_onSystemError hfailed
      · cases hvalue
      · obtain ⟨rfl, hunnoted, -⟩ := of_syncs hsync
        exact ⟨rfl, Trace.notesUnsynced_of_unnoted hunnoted⟩
      · obtain ⟨rfl, hunnoted, hunsynced⟩ := of_syncs hsync
        obtain ⟨rfl, -, hgivenUp⟩ := of_givingUp hhandler
        refine ⟨rfl, (Trace.notesUnsynced_of_unnoted hunnoted).append ?_ fun hsynced =>
          absurd hsynced (hunsynced _ rfl)⟩
        exact Trace.notesUnsynced_of_not_synced hgivenUp

end Rewrite

end CredentialStore
