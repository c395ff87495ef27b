import CredentialStore.Proofs.Run.Entries
import CredentialStore.Proofs.Store.Using

namespace CredentialStore.Rewrite

open CredentialStore.Action

variable {r : Rewrite}

/-- The event that is logged when the line of a number is dropped. -/
def drop (r : Rewrite) (number : Nat) : Log.AuditEvent := .malformedRecord r.primary (.integer number)

/-- Whether events tell of dropped lines in their order, from the line of a number on. -/
def DropsFrom (r : Rewrite) (first : Nat) (events : List Log.AuditEvent) : Prop :=
  ∃ numbers : List Nat, events = numbers.map r.drop ∧ numbers.Pairwise (· < ·) ∧ ∀ n ∈ numbers, first ≤ n

theorem dropsFrom_nil (first : Nat) : r.DropsFrom first [] := ⟨[], rfl, .nil, by simp⟩

/-- The next line is dropped, or it is not. -/
theorem DropsFrom.next {first : Nat} {events : List Log.AuditEvent} (hdrops : r.DropsFrom (first + 1) events) :
    r.DropsFrom first events ∧ r.DropsFrom first (r.drop first :: events) := by
  obtain ⟨numbers, rfl, hascends, hfirst⟩ := hdrops
  refine ⟨⟨numbers, rfl, hascends, fun n hn => Nat.le_of_succ_le (hfirst n hn)⟩, first :: numbers, rfl, ?_, ?_⟩
  · exact List.pairwise_cons.2 ⟨hfirst, hascends⟩
  · simpa using fun n hn => Nat.le_of_succ_le (hfirst n hn)

theorem silent_write (octets : Bytes) : (write octets).Silent := uses_write (fun _ _ => rfl) octets

/-- A line is dropped with an entry in the log, or dealt with in silence. -/
theorem audits_handleLine (number : Nat) (seen : Summary) (line : Bytes) :
    (r.handleLine number seen line).Audits fun events => events = [] ∨ events = [r.drop number] := by
  unfold handleLine
  cases r.fate seen.matched line with
  | copied =>
    exact audits_of_silent (uses_bind (silent_write line) fun _ => uses_pure _) (.inl rfl)
  | dropped =>
    refine audits_bind_silent (fun strikes state state' s s' tr outcome hruns => .inr ?_) fun _ => uses_pure _
    obtain ⟨-, struck, rfl, -⟩ := Runs.of_ask hruns
    rfl
  | matched record => exact audits_of_silent (uses_pure _) (.inl rfl)

/-- The induction is on how many lines may still be fetched; each has a greater number than the one before. -/
theorem audits_handleLines (opened : OpenedFile) (limit offset number : Nat) (seen : Summary) :
    (r.handleLines opened limit offset number seen).Audits (r.DropsFrom number) := by
  induction limit generalizing offset number seen with
  | zero => exact audits_of_silent (uses_pure _) (dropsFrom_nil number)
  | succ limit ih =>
    refine audits_bind (uses_ask (c := .fetchLine opened.id offset opened.size) rfl) (fun line => ?_)
      (dropsFrom_nil number)
    split
    · exact audits_of_silent (uses_pure _) (dropsFrom_nil number)
    · have hline := audits_handleLine (r := r) number seen line
      intro strikes state state' s s' tr outcome hruns
      obtain ⟨seen', _, _, tr₁, tr₂, rfl, hfirst, hrest⟩ | ⟨failure, -, hfirst⟩ := hruns.of_bind
      · have hdrops := DropsFrom.next (ih _ (number + 1) seen' hrest)
        rw [Trace.audited_append]
        obtain haudited | haudited := hline hfirst <;> rw [haudited]
        · exact hdrops.1
        · exact hdrops.2
      · have hdrops := DropsFrom.next (dropsFrom_nil (r := r) (number + 1))
        obtain haudited | haudited := hline hfirst <;> rw [haudited]
        · exact hdrops.1
        · exact hdrops.2

theorem audits_copyLines (opened : OpenedFile) : (r.copyLines opened).Audits (r.DropsFrom 1) :=
  audits_thenAlways (audits_onSystemError (audits_handleLines opened _ 0 1 {}) fun _ => uses_throw _)
    (uses_ask (c := .closePrimary opened.id) rfl)

/-- The audit events of copying a store are its dropped lines. -/
theorem audits_copyStore : r.copyStore.Audits (r.DropsFrom 1) := by
  refine audits_bind (uses_openPrimary.mono fun c hopens => ?_) (fun opened => ?_) (dropsFrom_nil 1)
  · cases c <;> first | exact False.elim hopens | rfl
  · cases opened with
    | none => exact audits_of_silent (uses_pure _) (dropsFrom_nil 1)
    | some opened =>
      exact audits_bind_silent (audits_copyLines opened) fun seen =>
        uses_bind (uses_ask rfl) fun _ => uses_pure _

theorem audits_merge : r.merge.Audits (r.DropsFrom 1) := by
  rw [merge_eq]
  refine audits_bind uses_get (fun state => ?_) (dropsFrom_nil 1)
  split
  · exact audits_bind (uses_throw _) (fun _ => audits_copyStore) (dropsFrom_nil 1)
  · exact audits_copyStore

theorem audit?_of_gates {c : Call} (hgates : r.Gates c) : c.audit? = none := by
  match c, hgates with
  | .createStaging _ _, _ | .openStream _, _ | .abandonStream _, _ => rfl
  | .closeStaging _, _ | .unlinkStaging _, _ => rfl
  | .log (.closeFailed _), _ | .log (.removeFailed _ _), _ => rfl

end CredentialStore.Rewrite
