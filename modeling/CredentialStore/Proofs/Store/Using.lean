import CredentialStore.Proofs.Run.Parts
import CredentialStore.Proofs.Store.Parts

namespace CredentialStore

open CredentialStore.Action

/-- Adding octets to the staging file. -/
def Call.Writes : Call → Prop
  | write _ _ => True
  | _ => False

/-- Removing the staging file, as a part of the work. -/
def Call.Removes (part : Log.Part) (staging : Text) : Call → Prop
  | unlinkStaging path => path = staging
  | log (.removeFailed part' path) => part' = part ∧ path = staging
  | _ => False

theorem uses_removeStaging {σ : Type} (part : Log.Part) (staging : Text) :
    (removeStaging part staging : Action σ Unit).Uses (Call.Removes part staging) := by
  have hnote : (note (.removeFailed part staging) : Action σ Unit).Uses (Call.Removes part staging) :=
    uses_ask (c := .log (.removeFailed part staging)) ⟨rfl, rfl⟩
  refine uses_onSystemError (uses_ask (c := .unlinkStaging staging) rfl) fun cause => ?_
  cases cause with
  | unnumbered description => exact hnote
  | numbered errno => cases errno <;> first | exact uses_pure _ | exact hnote

namespace Rewrite

variable {r : Rewrite}

/-- The calls that give up the staging file. -/
def GivesUp (r : Rewrite) : Call → Prop
  | .closeStaging _ => True
  | .log (.closeFailed staging) => staging = r.staging
  | c => c.Removes .merging r.staging

/-- The calls that create the staging file and make it ready, or give it up again. -/
def Gates (r : Rewrite) : Call → Prop
  | .createStaging path mode => path = r.staging ∧ mode = r.mode
  | .openStream _ | .abandonStream _ => True
  | c => r.GivesUp c

/-- The calls that copy the primary file. -/
def Merges (r : Rewrite) : Call → Prop
  | .openPrimary path => path = r.primary
  | .fetchLine _ _ _ | .closePrimary _ | .write _ _ => True
  | .log (.audit (.malformedRecord path _)) => path = r.primary
  | .log (.merged path _ _ _) => path = r.primary
  | _ => False

/-- The calls that close the staging file. -/
def Closes (r : Rewrite) : Call → Prop
  | .flush _ | .sync _ | .closeStaging _ => True
  | .log (.closeFailed staging) => staging = r.staging
  | _ => False

theorem GivesUp.of_removes {c : Call} (hremoves : c.Removes .merging r.staging) : r.GivesUp c := by
  match c, hremoves with
  | .unlinkStaging _, hremoves => exact hremoves
  | .log (.removeFailed _ _), hremoves => exact hremoves

theorem Gates.of_givesUp {c : Call} (hgives : r.GivesUp c) : r.Gates c := by
  cases c <;> first | exact False.elim hgives | exact hgives

theorem uses_closeGivenUp {allowed : Call → Prop} {file : FileId} (hclose : allowed (.closeStaging file))
    (hnote : allowed (.log (.closeFailed r.staging))) : (r.closeGivenUp file).Uses allowed :=
  uses_onSystemError (uses_ask hclose) fun _ => uses_ask hnote

theorem uses_removeOwned : r.removeOwned.Uses (Call.Removes .merging r.staging) := by
  refine uses_bind uses_get fun state => ?_
  split
  · exact uses_bind (uses_modify _) fun _ => uses_removeStaging .merging r.staging
  · exact uses_pure _

theorem uses_discard : r.discard.Uses r.GivesUp := by
  rw [discard_eq]
  refine uses_bind uses_get fun state => ?_
  have hremove := uses_removeOwned.mono fun _ => GivesUp.of_removes (r := r)
  cases state.stream with
  | none => exact hremove
  | some file =>
    refine uses_bind (uses_modify _) fun _ => ?_
    exact uses_bind (uses_closeGivenUp trivial rfl) fun _ => hremove

/-- Where the staging file is closed already, giving it up removes it. -/
theorem uses_discard_of_closed {state : State} (hstream : state.stream = none) :
    (r.discard state).Uses (Call.Removes .merging r.staging) := by
  obtain ⟨stream, owned, needsNewline⟩ := state
  cases hstream
  exact uses_removeOwned _

theorem uses_openStream (file : FileId) : (r.openStream file).Uses r.Gates := by
  refine uses_onSystemError ?_ fun cause => ?_
  · exact uses_bind (uses_ask (c := .openStream file) trivial) fun _ => uses_modify _
  · refine uses_bind (uses_ask (c := .abandonStream file) trivial) fun _ => uses_bind ?_ fun _ => uses_throw _
    exact uses_discard.mono fun _ => Gates.of_givesUp

theorem uses_acquire : r.acquire.Uses r.Gates := by
  refine uses_bind (uses_onSystemError (uses_ask ⟨rfl, rfl⟩) fun cause => ?_)
    fun file => uses_bind (uses_modify _) fun _ => uses_openStream file
  split <;> exact uses_throw _

theorem uses_write {allowed : Call → Prop} (hwrite : ∀ file octets, allowed (.write file octets))
    (octets : Bytes) : (write octets).Uses allowed := by
  refine uses_bind uses_get fun state => ?_
  cases state.stream with
  | none => exact uses_throw _
  | some file =>
    refine uses_bind (uses_onSystemError (uses_ask (hwrite file octets)) fun _ => uses_throw _) fun _ => ?_
    cases octets.getLast? with
    | none => exact uses_pure _
    | some last => exact uses_modify _

/-- The calls that deal with one line. -/
def Handles (r : Rewrite) (number : Nat) : Call → Prop
  | .write _ _ => True
  | .log (.audit (.malformedRecord path line)) => path = r.primary ∧ line = .integer number
  | _ => False

theorem Merges.of_handles {number : Nat} {c : Call} (hhandles : r.Handles number c) : r.Merges c := by
  match c, hhandles with
  | .write _ _, _ => trivial
  | .log (.audit (.malformedRecord _ _)), hhandles => exact hhandles.1

theorem uses_handleLine (number : Nat) (seen : Summary) (line : Bytes) :
    (r.handleLine number seen line).Uses (r.Handles number) := by
  unfold handleLine
  cases r.fate seen.matched line with
  | copied => exact uses_bind (uses_write (fun _ _ => trivial) line) fun _ => uses_pure _
  | dropped => exact uses_bind (uses_ask ⟨rfl, rfl⟩) fun _ => uses_pure _
  | matched record => exact uses_pure _

theorem uses_handleLines {allowed : Call → Prop} {opened : OpenedFile}
    (hfetch : ∀ start stop, allowed (.fetchLine opened.id start stop))
    (hhandles : ∀ number c, r.Handles number c → allowed c) (limit offset number : Nat) (seen : Summary) :
    (r.handleLines opened limit offset number seen).Uses allowed := by
  induction limit generalizing offset number seen with
  | zero => exact uses_pure _
  | succ limit ih =>
    refine uses_bind (uses_ask (c := .fetchLine opened.id offset opened.size) (hfetch _ _)) fun line => ?_
    split
    · exact uses_pure _
    · exact uses_bind ((uses_handleLine number seen line).mono (hhandles number)) fun seen' => ih _ _ seen'

/-- The calls that open the primary file. -/
def Opens (r : Rewrite) : Call → Prop
  | .openPrimary path => path = r.primary
  | _ => False

theorem Merges.of_opens {c : Call} (hopens : r.Opens c) : r.Merges c := by
  cases c <;> first | exact False.elim hopens | exact hopens

theorem uses_openPrimary : r.openPrimary.Uses r.Opens := by
  refine uses_onSystemError (uses_bind (uses_ask rfl) fun _ => uses_pure _) fun cause => ?_
  split
  · exact uses_pure _
  · exact uses_throw _

theorem uses_copyLines {allowed : Call → Prop} {opened : OpenedFile}
    (hfetch : ∀ start stop, allowed (.fetchLine opened.id start stop))
    (hhandles : ∀ number c, r.Handles number c → allowed c) (hclose : allowed (.closePrimary opened.id)) :
    (r.copyLines opened).Uses allowed := by
  refine uses_thenAlways (uses_onSystemError ?_ fun _ => uses_throw _) (uses_ask hclose)
  exact uses_handleLines hfetch hhandles _ 0 1 {}

theorem uses_copyStore : r.copyStore.Uses r.Merges := by
  refine uses_bind (uses_openPrimary.mono fun _ => Merges.of_opens) fun opened => ?_
  cases opened with
  | none => exact uses_pure _
  | some opened =>
    refine uses_bind (uses_copyLines (fun _ _ => trivial) (fun _ _ => Merges.of_handles) trivial) fun seen => ?_
    exact uses_bind (uses_ask rfl) fun _ => uses_pure _

theorem uses_merge : r.merge.Uses r.Merges := by
  rw [merge_eq]
  refine uses_bind uses_get fun state => ?_
  split
  · exact uses_bind (uses_throw _) fun _ => uses_copyStore
  · exact uses_copyStore

theorem uses_writeLine (line? : Option Bytes) : (writeLine line?).Uses Call.Writes := by
  cases line? with
  | none => exact uses_throw _
  | some line => exact uses_write (fun _ _ => trivial) line

theorem uses_append (record : Record) : (append record).Uses Call.Writes := by
  rw [append_eq]
  refine uses_bind uses_get fun state => ?_
  split
  · exact uses_bind (uses_write (fun _ _ => trivial) [lineFeed]) fun _ => uses_writeLine record.toLine?
  · exact uses_writeLine record.toLine?

theorem uses_close : r.close.Uses r.Closes := by
  refine uses_bind uses_get fun state => ?_
  cases state.stream with
  | none => exact uses_pure _
  | some file =>
    refine uses_bind (uses_modify _) fun _ => uses_bind (uses_onSystemError ?_ fun cause => ?_) fun _ => ?_
    · exact uses_bind (uses_ask (c := .flush file) trivial) fun _ => uses_ask (c := .sync file) trivial
    · exact uses_bind (uses_closeGivenUp trivial rfl) fun _ => uses_throw _
    · exact uses_onSystemError (uses_ask (c := .closeStaging file) trivial) fun _ => uses_throw _

end Rewrite

namespace Commit

variable {σ : Type} {paths : StorePaths}

/-- The calls that keep the primary file as the backup. -/
def BacksUp (paths : StorePaths) : Call → Prop
  | .unlinkBackup path => path = paths.backup
  | .linkBackup primary backup | .copyBackup primary backup =>
    primary = paths.primary ∧ backup = paths.backup
  | .log (.linkUnsupported backup _) => backup = paths.backup
  | _ => False

/-- The calls that install the staging file up to the last one. -/
def Steps (paths : StorePaths) : Call → Prop
  | .unlinkBackup path => path = paths.backup
  | .linkBackup primary backup | .copyBackup primary backup =>
    primary = paths.primary ∧ backup = paths.backup
  | .install staging primary => staging = paths.staging ∧ primary = paths.primary
  | .log (.linkUnsupported backup _) => backup = paths.backup
  | _ => False

theorem Steps.of_backsUp {c : Call} (hbacks : BacksUp paths c) : Steps paths c := by
  match c, hbacks with
  | .unlinkBackup _, hbacks | .linkBackup _ _, hbacks | .copyBackup _ _, hbacks => exact hbacks
  | .log (.linkUnsupported _ _), hbacks => exact hbacks

theorem uses_removeBackup : (removeBackup paths : Action σ Unit).Uses (BacksUp paths) := by
  refine uses_onSystemError (uses_ask rfl) fun cause => ?_
  split
  · exact uses_pure _
  · exact uses_throw _

theorem uses_copyPrimary : (copyPrimary paths : Action σ Bool).Uses (BacksUp paths) := by
  refine uses_onSystemError (uses_bind (uses_ask ⟨rfl, rfl⟩) fun _ => uses_pure _) fun cause => ?_
  split
  · exact uses_pure _
  · exact uses_throw _

theorem uses_backUpPrimary : (backUpPrimary paths : Action σ Bool).Uses (BacksUp paths) := by
  have hlink : (Action.ask (.linkBackup paths.primary paths.backup) : Action σ Unit).Uses (BacksUp paths) :=
    uses_ask (c := .linkBackup paths.primary paths.backup) ⟨rfl, rfl⟩
  refine uses_bind (uses_attempt hlink) fun outcome => ?_
  split
  · exact uses_pure _
  · exact uses_pure _
  · split
    · exact uses_bind (uses_ask rfl) fun _ => uses_copyPrimary
    · exact uses_throw _
  · exact uses_throw _

theorem uses_steps : (steps paths : Action σ Bool).Uses (Steps paths) := by
  refine uses_bind (uses_removeBackup.mono fun _ => .of_backsUp) fun _ => ?_
  refine uses_bind (uses_backUpPrimary.mono fun _ => .of_backsUp) fun _ => uses_bind ?_ fun _ => uses_pure _
  exact uses_onSystemError (uses_ask (c := .install paths.staging paths.primary) ⟨rfl, rfl⟩) fun _ =>
    uses_throw _

theorem uses_discard (staging : Text) :
    (discard staging : Action σ Unit).Uses (Call.Removes .committing staging) := by
  rw [discard_eq]
  exact uses_removeStaging .committing staging

/-- The calls of a commit. -/
def Commits (paths : StorePaths) (c : Call) : Prop :=
  Steps paths c ∨ c.Removes .committing paths.staging ∨ ∃ backedUp, c = .log (.installed paths.primary backedUp)

theorem uses_commit : (commit paths : Action σ Unit).Uses (Commits paths) := by
  refine uses_bind (uses_orCleanUp (uses_steps.mono fun _ => .inl) ?_) fun backedUp => ?_
  · exact (uses_discard paths.staging).mono fun _ hremoves => .inr (.inl hremoves)
  · exact uses_ask (.inr (.inr ⟨backedUp, rfl⟩))

end Commit

end CredentialStore
