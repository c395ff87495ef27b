import CredentialStore.Proofs.Run.Safe

namespace CredentialStore.Action

variable {k : Contract} {σ τ α β : Type} {state : σ} {tr : Trace} {s : Scene}

/-- Whether an action keeps to a contract and ends in a postcondition on its outcome and its state. -/
def Safe (k : Contract) (action : Action σ α)
    (post : Except Failure α → σ → Trace → Scene → Prop) (state : σ) (tr : Trace) (s : Scene) : Prop :=
  (action state).Safe k (fun result => post result.1 result.2) tr s

/-- The postcondition of an action that goes on where it succeeds. -/
def andThen (k : Contract) (next : α → Action σ β)
    (post : Except Failure β → σ → Trace → Scene → Prop) :
    Except Failure α → σ → Trace → Scene → Prop
  | .ok value => (next value).Safe k post
  | .error failure => post (.error failure)

/-- The postcondition of an action whose errors of the file system are met. -/
def orElse (k : Contract) (handler : SystemError → Action σ α)
    (post : Except Failure α → σ → Trace → Scene → Prop) :
    Except Failure α → σ → Trace → Scene → Prop
  | .error (.system error) => (handler error).Safe k post
  | outcome => post outcome

variable {post post' : Except Failure α → σ → Trace → Scene → Prop}

@[simp] theorem andThen_ok {next : α → Action σ β} {post : Except Failure β → σ → Trace → Scene → Prop}
    (value : α) : andThen k next post (.ok value) = (next value).Safe k post := rfl

@[simp] theorem andThen_error {next : α → Action σ β}
    {post : Except Failure β → σ → Trace → Scene → Prop} (failure : Failure) :
    andThen k next post (.error failure) = post (.error failure) := rfl

@[simp] theorem orElse_ok {handler : SystemError → Action σ α} (value : α) :
    orElse k handler post (.ok value) = post (.ok value) := rfl

@[simp] theorem orElse_system {handler : SystemError → Action σ α} (error : SystemError) :
    orElse k handler post (.error (.system error)) = (handler error).Safe k post := rfl

theorem Safe.mono {action : Action σ α} (hsafe : action.Safe k post state tr s)
    (hpost : ∀ outcome state' tr' s', post outcome state' tr' s' → post' outcome state' tr' s') :
    action.Safe k post' state tr s :=
  Program.Safe.mono hsafe fun result => hpost result.1 result.2

theorem Safe.extending {action : Action σ α} (hsafe : action.Safe k post state tr s) :
    action.Safe k (fun outcome state' tr' s' => post outcome state' tr' s' ∧ tr <+: tr') state tr s :=
  Program.Safe.extending hsafe

theorem safe_pure {value : α} (hpost : post (.ok value) state tr s) :
    (pure value : Action σ α).Safe k post state tr s := hpost

theorem safe_throw {failure : Failure} (hpost : post (.error failure) state tr s) :
    (throw failure : Action σ α).Safe k post state tr s := hpost

theorem safe_get {post : Except Failure σ → σ → Trace → Scene → Prop}
    (hpost : post (.ok state) state tr s) : (get : Action σ σ).Safe k post state tr s := hpost

theorem safe_modify {post : Except Failure PUnit → σ → Trace → Scene → Prop} {f : σ → σ}
    (hpost : post (.ok ⟨⟩) (f state) tr s) : (modify f : Action σ PUnit).Safe k post state tr s := hpost

theorem safe_ask {c : Call} {post : Except Failure c.Reply → σ → Trace → Scene → Prop}
    (hpost : ∀ s₀, k.Drifts tr.standing s s₀ → ∀ answer struck s',
      Scene.Answers k.strikes s₀ ⟨c, answer, struck⟩ s' →
        k.allows tr.standing s₀.world.files ⟨c, answer, struck⟩ s'.world.files ∧
          post answer state (tr ++ [⟨c, answer, struck⟩]) s') :
    (ask c : Action σ c.Reply).Safe k post state tr s := hpost

theorem safe_bind {first : Action σ α} {next : α → Action σ β}
    {post : Except Failure β → σ → Trace → Scene → Prop}
    (hfirst : first.Safe k (andThen k next post) state tr s) :
    (first >>= next).Safe k post state tr s := by
  refine Program.Safe.bind (p := first state) (Program.Safe.mono hfirst ?_)
  rintro ⟨failure | value, state'⟩ tr' s' hpost
  · exact hpost
  · exact hpost

theorem safe_get_bind {next : σ → Action σ β} {post : Except Failure β → σ → Trace → Scene → Prop}
    (hnext : (next state).Safe k post state tr s) :
    (get >>= next : Action σ β).Safe k post state tr s := hnext

theorem safe_modify_bind {f : σ → σ} {next : PUnit → Action σ β}
    {post : Except Failure β → σ → Trace → Scene → Prop}
    (hnext : (next ⟨⟩).Safe k post (f state) tr s) :
    (modify f >>= next : Action σ β).Safe k post state tr s := hnext

theorem andThen_of_ok {next : α → Action σ β} {post : Except Failure β → σ → Trace → Scene → Prop}
    {outcome : Except Failure α} {value : α} (houtcome : outcome = .ok value)
    (hnext : (next value).Safe k post state tr s) : andThen k next post outcome state tr s := by
  rw [houtcome]
  exact hnext

theorem safe_attempt {action : Action σ α}
    {post : Except Failure (Except Failure α) → σ → Trace → Scene → Prop}
    (hsafe : action.Safe k (fun outcome => post (.ok outcome)) state tr s) :
    (attempt action).Safe k post state tr s :=
  Program.Safe.bind (p := action state) (Program.Safe.mono hsafe fun _ _ _ hpost => hpost)

theorem safe_onSystemError {action : Action σ α} {handler : SystemError → Action σ α}
    (hsafe : action.Safe k (orElse k handler post) state tr s) :
    (action.onSystemError handler).Safe k post state tr s := by
  refine safe_bind (safe_attempt (hsafe.mono ?_))
  intro outcome state' tr' s' hpost
  rcases outcome with failure | value
  · cases failure <;> exact hpost
  · exact hpost

/-- Where errors of the file system are met by other failures, one postcondition for all failures is
    enough. -/
theorem orElse_throw {handler : SystemError → Action σ α}
    (hthrows : ∀ error, ∃ failure, handler error = throw failure)
    (hpost : ∀ failure, post (.error failure) state tr s) (failure : Failure) :
    orElse k handler post (.error failure) state tr s := by
  cases failure with
  | system error =>
    obtain ⟨failure, hhandler⟩ := hthrows error
    rw [orElse_system, hhandler]
    exact safe_throw (hpost failure)
  | _ => exact hpost _

/-- The error that something is missing can be met in its own way. -/
theorem orElse_missing {absent : Action σ α} {other : SystemError → Action σ α} {error : SystemError}
    (habsent : error = .numbered .notFound → absent.Safe k post state tr s)
    (hother : error ≠ .numbered .notFound → (other error).Safe k post state tr s) :
    orElse k (fun
      | .numbered .notFound => absent
      | error => other error) post (.error (.system error)) state tr s := by
  rw [orElse_system]
  split
  · exact habsent rfl
  · rename_i hmiss
    exact hother hmiss

/-- Where only the error that something is missing is met by going on, one postcondition for all other
    failures is enough. -/
theorem orElse_unlessMissing {absent : Action σ α} {f : SystemError → Failure} {failure : Failure}
    (hfailure : failure ≠ .numbered .notFound) (hpost : ∀ failure, post (.error failure) state tr s) :
    orElse k (fun
      | .numbered .notFound => absent
      | error => throw (f error)) post (.error failure) state tr s := by
  cases failure with
  | system error =>
    refine orElse_missing (fun hmiss => ?_) fun _ => safe_throw (hpost _)
    exact absurd (congrArg Failure.system hmiss) hfailure
  | _ => exact hpost _

/-- A failure passes once what it left was cleaned up, unless cleaning up fails. -/
theorem safe_orCleanUp {action : Action σ α} {cleanUp : Action σ Unit}
    (hsafe : action.Safe k (fun outcome state' tr' s' =>
      match outcome with
      | .ok value => post (.ok value) state' tr' s'
      | .error failure => cleanUp.Safe k (andThen k (fun _ => throw failure) post) state' tr' s')
      state tr s) :
    (action.orCleanUp cleanUp).Safe k post state tr s := by
  refine safe_bind (safe_attempt (hsafe.mono ?_))
  rintro (failure | value) state' tr' s' hpost
  · exact safe_bind hpost
  · exact hpost

theorem safe_thenAlways {action : Action σ α} {last : Action σ Unit}
    (hsafe : action.Safe k (fun outcome state' tr' s' =>
      last.Safe k (andThen k (fun _ => MonadExcept.ofExcept outcome) post) state' tr' s') state tr s) :
    (action.thenAlways last).Safe k post state tr s := by
  refine safe_bind (safe_attempt (hsafe.mono ?_))
  rintro (failure | value) state' tr' s' hpost
  · exact safe_bind hpost
  · exact safe_bind hpost

theorem safe_onPart {part : σ → τ} {replace : σ → τ → σ} {action : Action τ α}
    (hsafe : action.Safe k (fun outcome t => post outcome (replace state t)) (part state) tr s) :
    (action.onPart part replace).Safe k post state tr s :=
  Program.Safe.bind (p := action (part state)) (Program.Safe.mono hsafe fun _ _ _ hpost => hpost)

end CredentialStore.Action
