import CredentialStore.Proofs.Run.Telling

namespace CredentialStore

/-- Whether a program stands to the staging file as one that created it and did not let go of it. -/
def Standing.IsHolding (st : Standing) : Prop := ∃ file, st = .holding file

/-- How a program stands does not depend on whether it was a failure from outside that struck a call. -/
theorem Event.turn?_struck (e : Event) : e.turn? = turn? ⟨e.call, e.answer, false⟩ := by
  obtain ⟨c, answer, struck⟩ := e
  cases c <;> cases answer <;> rfl

theorem Standing.next_struck (st : Standing) (e : Event) : st.next e = st.next ⟨e.call, e.answer, false⟩ :=
  congrArg (Option.getD · st) e.turn?_struck

/-- The calls of the work on a store, by how the program that makes them stands to the staging file. -/
def Call.Fits (paths : StorePaths) (st : Standing) : Call → Prop
  | createStaging path _ => path = paths.staging
  | write _ _ | linkBackup _ _ | copyBackup _ _ => st.IsHolding
  | unlinkStaging path => path = paths.staging ∧ st.IsHolding
  | unlinkBackup path => path = paths.backup ∧ st.IsHolding
  | install staging primary => (staging = paths.staging ∧ primary = paths.primary) ∧ st.IsHolding
  | nextAnswer _ | readTerminal _ | beginTransaction | setUpLog _ => False
  | _ => True

/-- The answers to a call that a program has to expect: whoever holds a staging file does not create one, and
    no call fails with an error of the store. -/
def Call.Admits (st : Standing) (c : Call) (answer : c.Answer) : Prop :=
  (∀ file, Event.turn? ⟨c, answer, false⟩ = some (.holding file) → ¬st.IsHolding) ∧
    ∀ error, answer ≠ .error (.credential error)

/-- Whether a program makes only calls that fit, and ends in a postcondition, whatever its calls are answered. -/
def Program.Abides (paths : StorePaths) {α : Type} (post : α → Standing → Prop) : Program α → Standing → Prop
  | .done value, st => post value st
  | .call c next, st => c.Fits paths st ∧
      ∀ answer, c.Admits st answer → (next answer).Abides paths post (st.next ⟨c, answer, false⟩)

namespace Program.Abides

variable {paths : StorePaths} {α β : Type} {p : Program α} {post post' : α → Standing → Prop} {st : Standing}

theorem mono (habides : p.Abides paths post st) (hpost : ∀ value st', post value st' → post' value st') :
    p.Abides paths post' st := by
  induction p generalizing st with
  | done value => exact hpost value st habides
  | call c next ih => exact ⟨habides.1, fun answer hadmits => ih answer (habides.2 answer hadmits)⟩

theorem bind {f : α → Program β} {post : β → Standing → Prop}
    (habides : p.Abides paths (fun value => (f value).Abides paths post) st) :
    (p.bind f).Abides paths post st := by
  induction p generalizing st with
  | done value => exact habides
  | call c next ih => exact ⟨habides.1, fun answer hadmits => ih answer (habides.2 answer hadmits)⟩

end Program.Abides

namespace Action

variable {paths : StorePaths} {σ α β : Type} {state : σ} {st : Standing}

/-- Whether an action makes only calls that fit and ends in a postcondition on its outcome and its state. -/
def Abides (paths : StorePaths) (action : Action σ α) (post : Except Failure α → σ → Standing → Prop)
    (state : σ) (st : Standing) : Prop :=
  (action state).Abides paths (fun result => post result.1 result.2) st

/-- The postcondition of an action that another one follows where it succeeds. -/
def thenAbides (paths : StorePaths) (next : α → Action σ β) (post : Except Failure β → σ → Standing → Prop) :
    Except Failure α → σ → Standing → Prop
  | .ok value => (next value).Abides paths post
  | .error failure => post (.error failure)

variable {post post' : Except Failure α → σ → Standing → Prop}

theorem Abides.mono {action : Action σ α} (habides : action.Abides paths post state st)
    (hpost : ∀ outcome state' st', post outcome state' st' → post' outcome state' st') :
    action.Abides paths post' state st :=
  Program.Abides.mono habides fun result => hpost result.1 result.2

theorem abides_pure {value : α} (hpost : post (.ok value) state st) :
    (pure value : Action σ α).Abides paths post state st := hpost

theorem abides_throw {failure : Failure} (hpost : post (.error failure) state st) :
    (throw failure : Action σ α).Abides paths post state st := hpost

theorem abides_modify {post : Except Failure PUnit → σ → Standing → Prop} {f : σ → σ}
    (hpost : post (.ok ⟨⟩) (f state) st) : (modify f : Action σ PUnit).Abides paths post state st := hpost

theorem abides_get_bind {next : σ → Action σ β} {post : Except Failure β → σ → Standing → Prop}
    (hnext : (next state).Abides paths post state st) :
    (get >>= next : Action σ β).Abides paths post state st := hnext

theorem abides_modify_bind {f : σ → σ} {next : PUnit → Action σ β}
    {post : Except Failure β → σ → Standing → Prop} (hnext : (next ⟨⟩).Abides paths post (f state) st) :
    (modify f >>= next : Action σ β).Abides paths post state st := hnext

theorem abides_ask {c : Call} {post : Except Failure c.Reply → σ → Standing → Prop} (hfits : c.Fits paths st)
    (hpost : ∀ answer, c.Admits st answer → post answer state (st.next ⟨c, answer, false⟩)) :
    (ask c : Action σ c.Reply).Abides paths post state st := ⟨hfits, hpost⟩

theorem abides_bind {first : Action σ α} {next : α → Action σ β}
    {post : Except Failure β → σ → Standing → Prop}
    (hfirst : first.Abides paths (thenAbides paths next post) state st) :
    (first >>= next).Abides paths post state st := by
  refine Program.Abides.bind (p := first state) (Program.Abides.mono hfirst ?_)
  rintro ⟨failure | value, state'⟩ st' hpost
  · exact hpost
  · exact hpost

theorem abides_attempt {action : Action σ α} {post : Except Failure (Except Failure α) → σ → Standing → Prop}
    (habides : action.Abides paths (fun outcome => post (.ok outcome)) state st) :
    (attempt action).Abides paths post state st :=
  Program.Abides.bind (p := action state) (Program.Abides.mono habides fun _ _ hpost => hpost)

theorem abides_onSystemError {action : Action σ α} {handler : SystemError → Action σ α}
    (habides : action.Abides paths (fun outcome state' st' =>
      match outcome with
      | .error (.system cause) => (handler cause).Abides paths post state' st'
      | outcome => post outcome state' st') state st) :
    (action.onSystemError handler).Abides paths post state st := by
  refine abides_bind (abides_attempt (habides.mono ?_))
  rintro (failure | value) state' st' hpost
  · cases failure <;> exact hpost
  · exact hpost

theorem abides_orCleanUp {action : Action σ α} {cleanUp : Action σ Unit}
    (habides : action.Abides paths (fun outcome state' st' =>
      match outcome with
      | .ok value => post (.ok value) state' st'
      | .error failure => cleanUp.Abides paths (thenAbides paths (fun _ => throw failure) post) state' st')
      state st) :
    (action.orCleanUp cleanUp).Abides paths post state st := by
  refine abides_bind (abides_attempt (habides.mono ?_))
  rintro (failure | value) state' st' hpost
  · exact abides_bind hpost
  · exact hpost

theorem abides_thenAlways {action : Action σ α} {last : Action σ Unit}
    (habides : action.Abides paths (fun outcome state' st' =>
      last.Abides paths (thenAbides paths (fun _ => MonadExcept.ofExcept outcome) post) state' st') state st) :
    (action.thenAlways last).Abides paths post state st := by
  refine abides_bind (abides_attempt (habides.mono ?_))
  rintro (failure | value) state' st' hpost
  · exact abides_bind hpost
  · exact abides_bind hpost

/-- Whether an outcome is not that somebody else holds the store. -/
def Unrefused (outcome : Except Failure α) : Prop := ∀ path, outcome ≠ .error (.credential (.busy path))

/-- Whether an action keeps a relation between its state and how the program stands, and does not find the
    store held by somebody else. -/
def Steady (paths : StorePaths) (inv : σ → Standing → Prop) (action : Action σ α) : Prop :=
  ∀ ⦃state st⦄, inv state st → action.Abides paths (fun outcome state' st' => inv state' st' ∧
    Unrefused outcome) state st

variable {inv : σ → Standing → Prop} {failure : Failure}

theorem unrefused_ok (value : α) : Unrefused (.ok value : Except Failure α) := fun _ h => by cases h

theorem unrefused_error (hfailure : ∀ path, failure ≠ .credential (.busy path)) :
    Unrefused (.error failure : Except Failure α) := fun path h => hfailure path (Except.error.inj h)

theorem Unrefused.error (hunrefused : Unrefused (.error failure : Except Failure α)) :
    Unrefused (.error failure : Except Failure β) :=
  unrefused_error fun path h => hunrefused path (congrArg _ h)

theorem unrefused_of_admits {c : Call} {answer : c.Answer} (hadmits : c.Admits st answer) : Unrefused answer :=
  fun _ h => hadmits.2 _ h

theorem steady_pure (value : α) : (pure value : Action σ α).Steady paths inv :=
  fun _ _ hinv => abides_pure ⟨hinv, unrefused_ok value⟩

theorem steady_throw (hfailure : ∀ path, failure ≠ .credential (.busy path)) :
    (throw failure : Action σ α).Steady paths inv :=
  fun _ _ hinv => abides_throw ⟨hinv, unrefused_error hfailure⟩

/-- A call that does not change how the program stands. -/
theorem steady_ask {c : Call} (hfits : ∀ state st, inv state st → c.Fits paths st)
    (hturn : ∀ answer, Event.turn? ⟨c, answer, false⟩ = none) :
    (ask c : Action σ c.Reply).Steady paths inv := by
  intro state st hinv
  refine abides_ask (hfits state st hinv) fun answer hadmits => ⟨?_, unrefused_of_admits hadmits⟩
  rwa [Standing.next, hturn, Option.getD_none]

theorem Steady.thenAbides {next : α → Action σ β} {action : Action σ α} (hsteady : action.Steady paths inv)
    {post : Except Failure β → σ → Standing → Prop}
    (hnext : ∀ value state' st', inv state' st' → (next value).Abides paths post state' st')
    (hfailed : ∀ failure state' st', inv state' st' → Unrefused (.error failure : Except Failure α) →
      post (.error failure) state' st') (hinv : inv state st) :
    action.Abides paths (thenAbides paths next post) state st := by
  refine (hsteady hinv).mono ?_
  rintro (failure | value) state' st' ⟨hinv, hunrefused⟩
  · exact hfailed failure state' st' hinv hunrefused
  · exact hnext value state' st' hinv

theorem steady_bind {first : Action σ α} {next : α → Action σ β} (hfirst : first.Steady paths inv)
    (hnext : ∀ value, (next value).Steady paths inv) : (first >>= next).Steady paths inv :=
  fun _ _ hinv => abides_bind (hfirst.thenAbides (fun value _ _ hinv => hnext value hinv)
    (fun _ _ _ hinv hunrefused => ⟨hinv, hunrefused.error⟩) hinv)

theorem steady_onSystemError {action : Action σ α} {handler : SystemError → Action σ α}
    (hsteady : action.Steady paths inv) (hhandler : ∀ cause, (handler cause).Steady paths inv) :
    (action.onSystemError handler).Steady paths inv := by
  refine fun _ _ hinv => abides_onSystemError ((hsteady hinv).mono ?_)
  rintro (failure | value) state' st' hpost
  · cases failure with
    | system cause => exact hhandler cause hpost.1
    | _ => exact hpost
  · exact hpost

theorem steady_thenAlways {action : Action σ α} {last : Action σ Unit} (hsteady : action.Steady paths inv)
    (hlast : last.Steady paths inv) : (action.thenAlways last).Steady paths inv := by
  refine fun _ _ hinv => abides_thenAlways ((hsteady hinv).mono ?_)
  rintro outcome state' st' ⟨hinv, hunrefused⟩
  refine hlast.thenAbides (fun _ state'' st'' hinv => ?_)
    (fun _ _ _ hinv hunrefused => ⟨hinv, hunrefused.error⟩) hinv
  cases outcome with
  | ok value => exact abides_pure ⟨hinv, unrefused_ok value⟩
  | error failure => exact abides_throw ⟨hinv, hunrefused⟩

theorem steady_note (event : Log.Event) : (note event : Action σ Unit).Steady paths inv :=
  steady_ask (c := .log event) (fun _ _ _ => trivial) fun _ => rfl

end Action

end CredentialStore
