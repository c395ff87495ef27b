import CredentialStore.Proofs.FileSystem.Growth
import CredentialStore.Proofs.Run.Logging
import CredentialStore.Proofs.Run.Steps
import CredentialStore.Proofs.Store.Using

namespace CredentialStore

open CredentialStore.Action FileSystem StorePaths

/-- Whether a call reads nothing but the primary file of a store and files that may be read, and sets up no log. -/
def Call.ReadsOnly (paths : StorePaths) (may : FileId → Prop) : Call → Prop
  | openPrimary path => path = paths.primary
  | copyBackup source _ => source = paths.primary
  | fetchLine id _ _ => may id
  | setUpLog _ => False
  | _ => True

/-- Whether the file that an event opened, if it did, may be read. -/
def Event.Opens (may : FileId → Prop) : Event → Prop
  | ⟨.openPrimary _, .ok opened, _⟩ => may opened.id
  | _ => True

/-- Whether a program reads nothing but the primary file of a store, as long as the files that it is given to
    read may be read. -/
def Program.ReadsOnly (paths : StorePaths) (may : FileId → Prop) {α : Type} : Program α → Prop
  | .done _ => True
  | .call c next => c.ReadsOnly paths may ∧
      ∀ answer, Event.Opens may ⟨c, answer, false⟩ → (next answer).ReadsOnly paths may

/-- Whether an action reads nothing but the primary file of a store, from whatever state. -/
def Action.ReadsOnly {σ α : Type} (paths : StorePaths) (may : FileId → Prop) (action : Action σ α) : Prop :=
  ∀ state, (action state).ReadsOnly paths may

namespace Program

variable {paths : StorePaths} {may : FileId → Prop} {α β : Type} {p : Program α}

theorem ReadsOnly.bind {f : α → Program β} (hfirst : p.ReadsOnly paths may)
    (hnext : ∀ value, (f value).ReadsOnly paths may) : (p.bind f).ReadsOnly paths may := by
  induction p with
  | done value => exact hnext value
  | call c next ih => exact ⟨hfirst.1, fun answer hopens => ih answer (hfirst.2 answer hopens)⟩

/-- What the calls read does not have to depend on their answers. -/
theorem ReadsOnly.of_uses {allowed : Call → Prop} (huses : p.Uses allowed)
    (hallowed : ∀ c, allowed c → c.ReadsOnly paths may) : p.ReadsOnly paths may := by
  induction p with
  | done value => trivial
  | call c next ih => exact ⟨hallowed c huses.1, fun answer _ => ih answer (huses.2 answer)⟩

end Program

namespace Action

variable {paths : StorePaths} {may : FileId → Prop} {σ τ α β : Type}

theorem readsOnly_of_uses {allowed : Call → Prop} {action : Action σ α} (huses : action.Uses allowed)
    (hallowed : ∀ c, allowed c → c.ReadsOnly paths may) : action.ReadsOnly paths may :=
  fun state => .of_uses (huses state) hallowed

theorem readsOnly_pure (value : α) : (pure value : Action σ α).ReadsOnly paths may := fun _ => trivial

theorem readsOnly_throw (failure : Failure) : (throw failure : Action σ α).ReadsOnly paths may := fun _ => trivial

theorem readsOnly_get : (get : Action σ σ).ReadsOnly paths may := fun _ => trivial

theorem readsOnly_modify (f : σ → σ) : (modify f : Action σ PUnit).ReadsOnly paths may := fun _ => trivial

theorem readsOnly_bind {first : Action σ α} {next : α → Action σ β} (hfirst : first.ReadsOnly paths may)
    (hnext : ∀ value, (next value).ReadsOnly paths may) : (first >>= next).ReadsOnly paths may := by
  intro state
  refine Program.ReadsOnly.bind (hfirst state) ?_
  rintro ⟨failure | value, state'⟩
  · trivial
  · exact hnext value state'

theorem readsOnly_attempt {action : Action σ α} (hreads : action.ReadsOnly paths may) :
    (attempt action).ReadsOnly paths may :=
  fun state => Program.ReadsOnly.bind (hreads state) fun _ => trivial

theorem readsOnly_orCleanUp {action : Action σ α} {cleanUp : Action σ Unit} (hreads : action.ReadsOnly paths may)
    (hclean : cleanUp.ReadsOnly paths may) : (action.orCleanUp cleanUp).ReadsOnly paths may := by
  refine readsOnly_bind (readsOnly_attempt hreads) fun outcome => ?_
  split
  · exact readsOnly_pure _
  · exact readsOnly_bind hclean fun _ => readsOnly_throw _

theorem readsOnly_onPart {part : σ → τ} {replace : σ → τ → σ} {action : Action τ α}
    (hreads : action.ReadsOnly paths may) : (action.onPart part replace).ReadsOnly paths may :=
  fun state => Program.ReadsOnly.bind (hreads (part state)) fun _ => trivial

theorem readsOnly_note (event : Log.Event) : (note event : Action σ Unit).ReadsOnly paths may :=
  fun _ => ⟨trivial, fun _ _ => trivial⟩

end Action

namespace Rewrite

variable {r : Rewrite} {paths : StorePaths} {may : FileId → Prop}

/-- What copying the store does once the primary file was opened, or could not be. -/
def afterOpening (r : Rewrite) : Except Failure OpenedFile → Action State Summary
  | .ok opened => do
    let seen ← r.copyLines opened
    note (.merged r.primary seen.copied seen.dropped seen.matched.isSome)
    pure seen
  | .error (.system (.numbered .notFound)) => pure { storeExists := false }
  | .error (.system e) => throw (cannotOpen e)
  | .error failure => throw failure

theorem copyStore_eq (r : Rewrite) (state : State) :
    r.copyStore state = .call (.openPrimary r.primary) fun answer => r.afterOpening answer state := by
  refine congrArg (Program.call (.openPrimary r.primary)) (funext fun answer => ?_)
  rcases answer with failure | opened
  · cases failure with
    | system e =>
      cases e with
      | numbered errno => cases errno <;> rfl
      | unnumbered description => rfl
    | _ => rfl
  · rfl

theorem readsOnly_of_handles {number : Nat} {c : Call} (hhandles : r.Handles number c) : c.ReadsOnly paths may := by
  cases c <;> first | exact False.elim hhandles | trivial

/-- Of the file that was opened only its own lines are fetched. -/
theorem readsOnly_copyStore (hprimary : r.primary = paths.primary) : r.copyStore.ReadsOnly paths may := by
  intro state
  rw [copyStore_eq]
  refine ⟨hprimary, fun answer hopens => ?_⟩
  rcases answer with failure | opened
  · cases failure with
    | system e =>
      cases e with
      | numbered errno => cases errno <;> trivial
      | unnumbered description => trivial
    | _ => trivial
  · have hlines : (r.copyLines opened).ReadsOnly paths may := readsOnly_of_uses
      (uses_copyLines (fun _ _ => hopens) (fun _ _ => readsOnly_of_handles) trivial) fun _ hreads => hreads
    exact readsOnly_bind hlines (fun _ => readsOnly_bind (readsOnly_note _) fun _ => readsOnly_pure _) state

theorem readsOnly_merge (hprimary : r.primary = paths.primary) : r.merge.ReadsOnly paths may := by
  rw [merge_eq]
  refine readsOnly_bind readsOnly_get fun state => ?_
  split
  · exact readsOnly_bind (readsOnly_throw _) fun _ => readsOnly_copyStore hprimary
  · exact readsOnly_copyStore hprimary

/-- Neither acquiring the store nor giving it up reads anything. -/
theorem readsOnly_of_gates {c : Call} (hgates : r.Gates c) : c.ReadsOnly paths may := by
  cases c <;> first | exact False.elim hgates | trivial

theorem readsOnly_of_closes {c : Call} (hcloses : r.Closes c) : c.ReadsOnly paths may := by
  cases c <;> first | exact False.elim hcloses | trivial

theorem readsOnly_of_writes {c : Call} (hwrites : c.Writes) : c.ReadsOnly paths may := by
  cases c <;> first | exact False.elim hwrites | trivial

end Rewrite

/-- A commit reads the primary file, to copy it. -/
theorem Commit.readsOnly_commit {σ : Type} {paths : StorePaths} {may : FileId → Prop} :
    (commit paths : Action σ Unit).ReadsOnly paths may := by
  refine readsOnly_of_uses uses_commit fun c hcommits => ?_
  obtain hsteps | hremoves | ⟨_, rfl⟩ := hcommits
  · cases c <;> first | exact False.elim hsteps | exact hsteps.1 | trivial
  · cases c <;> first | exact False.elim hremoves | trivial
  · trivial

end CredentialStore
