import CredentialStore.Proofs.Run.Explained
import CredentialStore.Proofs.Store.Committing
import CredentialStore.Proofs.Store.Parts

namespace CredentialStore

variable {points : List FaultPoint} {tr : Trace}

namespace Rewrite

variable {r : Rewrite}

theorem explained_write (hmem : .write ∈ points) (octets : Bytes) :
    (write octets).Explained points tr := by
  refine Action.explained_get_bind fun state => ?_
  cases state.stream with
  | none => exact Action.explained_throw trivial
  | some file =>
    refine (Action.explained_orThrow (c := .write file octets) rfl hmem).bind fun _ tr' _ => ?_
    cases octets.getLast? with
    | none => exact Action.explained_pure _
    | some last => exact Action.explained_modify _

theorem explained_handleLine (hmem : .write ∈ points) (number : Nat) (seen : Summary) (line : Bytes) :
    (r.handleLine number seen line).Explained points tr := by
  unfold handleLine
  cases r.fate seen.matched line with
  | copied => exact (explained_write hmem line).bind fun _ _ _ => Action.explained_pure _
  | dropped => exact (Action.explained_note _).bind fun _ _ _ => Action.explained_pure _
  | matched record => exact Action.explained_pure _

theorem explained_handleLines (hfetch : .fetchLine ∈ points) (hwrite : .write ∈ points)
    (opened : OpenedFile) (limit offset number : Nat) (seen : Summary) :
    (r.handleLines opened limit offset number seen).Explained points tr := by
  induction limit generalizing offset number seen tr with
  | zero => exact Action.explained_pure _
  | succ limit ih =>
    refine (Action.explained_ask (c := .fetchLine opened.id offset opened.size) rfl hfetch).bind
      fun (line : Bytes) tr' _ => ?_
    split
    · exact Action.explained_pure _
    · exact (explained_handleLine hwrite number seen line).bind fun seen _ _ => ih _ _ seen

theorem explained_openPrimary (hmem : .openPrimary ∈ points) : r.openPrimary.Explained points tr := by
  refine Action.Explained.onSystemError ?_ fun cause tr' _ hfailed => ?_
  · refine (Action.explained_ask (c := .openPrimary r.primary) rfl hmem).bind fun _ _ _ => ?_
    exact Action.explained_pure _
  · split
    · exact Action.explained_pure _
    · exact Action.explained_throw ⟨_, _, rfl, hfailed⟩

/-- The kinds of calls that copying the lines can fail for. -/
def mergePoints : List FaultPoint := [.openPrimary, .fetchLine, .closePrimary, .write]

theorem explained_copyLines (opened : OpenedFile) :
    (r.copyLines opened).Explained mergePoints tr := by
  refine Action.Explained.thenAlways ?_ fun tr' _ => ?_
  · refine Action.Explained.onSystemError ?_ fun cause tr' _ hfailed => ?_
    · exact explained_handleLines (by decide) (by decide) opened _ 0 1 {}
    · exact Action.explained_throw ⟨_, _, rfl, hfailed⟩
  · exact Action.explained_ask (c := .closePrimary opened.id) rfl (by decide)

theorem explained_copyStore : r.copyStore.Explained mergePoints tr := by
  refine (explained_openPrimary (by decide)).bind fun opened tr' _ => ?_
  cases opened with
  | none => exact Action.explained_pure _
  | some opened =>
    refine (explained_copyLines opened).bind fun seen _ _ => ?_
    exact (Action.explained_note _).bind fun _ _ _ => Action.explained_pure _

theorem explained_merge : r.merge.Explained mergePoints tr := by
  rw [merge_eq]
  refine Action.explained_get_bind fun state => ?_
  split
  · have hthrow : Trace.Explains mergePoints tr
        (.unexpected (text "merge() called before acquire()")) := trivial
    exact (Action.explained_throw hthrow).bind fun _ tr' _ => explained_copyStore
  · exact explained_copyStore

/-- The kinds of calls that completing the staging file can fail for: those that append the record, and
    those that flush, sync and close the file. -/
def finishPoints : List FaultPoint := [.write, .flush, .sync, .closeStaging]

theorem explained_writeLine (line? : Option Bytes) : (writeLine line?).Explained finishPoints tr := by
  cases line? with
  | none => exact Action.explained_throw trivial
  | some line => exact explained_write (by decide) line

theorem explained_append (record : Record) : (append record).Explained finishPoints tr := by
  rw [append_eq]
  refine Action.explained_get_bind fun state => ?_
  split
  · exact (explained_write (by decide) [lineFeed]).bind fun _ tr' _ => explained_writeLine record.toLine?
  · exact explained_writeLine record.toLine?

theorem explained_closeGivenUp (file : FileId) : (r.closeGivenUp file).Explained points tr :=
  Action.explained_handled rfl fun _ _ => Action.explained_note _

theorem explained_close : r.close.Explained finishPoints tr := by
  refine Action.explained_get_bind fun state => ?_
  cases state.stream with
  | none => exact Action.explained_pure _
  | some file =>
    refine (Action.explained_modify _).bind fun _ tr' _ => Action.Explained.bind ?_ fun _ tr'' _ => ?_
    · refine Action.Explained.onSystemError ?_ fun cause tr'' _ hfailed => ?_
      · refine (Action.explained_ask (c := .flush file) rfl (by decide)).bind fun _ _ _ => ?_
        exact Action.explained_ask (c := .sync file) rfl (by decide)
      · refine (explained_closeGivenUp file).bind fun _ _ hbegins => ?_
        exact Action.explained_throw ⟨_, _, rfl, hfailed.extended hbegins⟩
    · exact Action.explained_orThrow (c := .closeStaging file) rfl (by decide)

end Rewrite

namespace Commit

variable {σ : Type} {paths : StorePaths}

/-- The kinds of calls that a commit can fail for. -/
def faultPoints : List FaultPoint := [.unlinkBackup, .linkBackup, .copyBackup, .install]

theorem explained_removeBackup : (removeBackup paths : Action σ Unit).Explained faultPoints tr := by
  refine Action.Explained.onSystemError ?_ fun cause tr' _ hfailed => ?_
  · exact Action.explained_ask (c := .unlinkBackup paths.backup) rfl (by decide)
  · split
    · exact Action.explained_pure _
    · exact Action.explained_throw ⟨_, _, rfl, hfailed⟩

theorem explained_copyPrimary : (copyPrimary paths : Action σ Bool).Explained faultPoints tr := by
  refine Action.Explained.onSystemError ?_ fun cause tr' _ hfailed => ?_
  · refine (Action.explained_ask (c := .copyBackup paths.primary paths.backup) rfl (by decide)).bind
      fun _ _ _ => Action.explained_pure _
  · split
    · exact Action.explained_pure _
    · exact Action.explained_throw ⟨_, _, rfl, hfailed⟩

theorem explained_backUpPrimary : (backUpPrimary paths : Action σ Bool).Explained faultPoints tr := by
  have hlink : (Action.ask (.linkBackup paths.primary paths.backup) : Action σ Unit).Explained
      faultPoints tr := Action.explained_ask (c := .linkBackup paths.primary paths.backup) rfl (by decide)
  refine hlink.attempt_bind (fun _ _ _ => Action.explained_pure _) fun failure tr' _ hexplains => ?_
  split
  · exact Action.explained_pure _
  · exact Action.explained_pure _
  · rename_i cause hcause
    cases hcause
    split
    · exact (Action.explained_note _).bind fun _ _ _ => explained_copyPrimary
    · exact Action.explained_throw ⟨_, _, rfl, hexplains⟩
  · rename_i hfailure
    cases hfailure
    exact Action.explained_throw hexplains

theorem explained_commit : (commit paths : Action σ Unit).Explained faultPoints tr := by
  refine Action.Explained.bind (Action.Explained.orCleanUp ?_ fun tr' _ => ?_) fun _ _ _ =>
    Action.explained_note _
  · refine explained_removeBackup.bind fun _ _ _ => explained_backUpPrimary.bind fun backedUp _ _ => ?_
    refine (Action.explained_orThrow (c := .install paths.staging paths.primary) rfl (by decide)).bind ?_
    exact fun _ _ _ => Action.explained_pure _
  · refine Action.explained_handled (c := .unlinkStaging paths.staging) rfl fun cause tr'' => ?_
    cases cause with
    | unnumbered notice => exact Action.explained_note _
    | numbered errno => cases errno <;> first | exact Action.explained_pure _ | exact Action.explained_note _

end Commit

end CredentialStore
