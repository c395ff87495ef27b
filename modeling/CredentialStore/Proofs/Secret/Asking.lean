import CredentialStore.Proofs.Store.Holding
import CredentialStore.Secret.Authenticator

namespace CredentialStore

/-- Calls that are prompts or entries of the log. -/
def Call.Asks : Call → Prop
  | nextAnswer _ | readTerminal _ | log _ => True
  | _ => False

namespace Call.Asks

variable {c : Call}

theorem faultPoint?_eq (hasks : c.Asks) : c.faultPoint? = none := by
  cases c <;> first | exact False.elim hasks | rfl

theorem turn?_eq (hasks : c.Asks) (answer : c.Answer) (struck : Bool) :
    Event.turn? ⟨c, answer, struck⟩ = none := by
  cases c <;> first | exact False.elim hasks | rfl

theorem files_perform (hasks : c.Asks) (s : Scene) :
    (s.perform c).2.world.files = s.world.files := by
  cases c with
  | log event => exact Call.LeavesFiles.files_answer (c := .log event) trivial s.world
  | _ => first | exact False.elim hasks | rfl

theorem perform_congr (hasks : c.Asks) {s s' : Scene} (hsession : s.session = s'.session) :
    (s.perform c).1 = (s'.perform c).1 ∧ (s.perform c).2.session = (s'.perform c).2.session := by
  cases c with
  | nextAnswer prompt => simp only [Scene.perform, hsession, and_self]
  | readTerminal prompt =>
    simp only [Scene.perform, hsession]
    exact ⟨rfl, trivial⟩
  | log event => exact ⟨rfl, hsession⟩
  | _ => exact False.elim hasks

theorem answer_eq_perform (hasks : c.Asks) (s : Scene) : Scene.answer c s = s.perform c := by
  simp only [Scene.answer, Session.meet, hasks.faultPoint?_eq]

end Call.Asks

/-- A program that only asks gives what its session decides, whatever the world is. -/
theorem Program.Safe.of_asking {strikes : Strikes} {assumes : FileSystem → Prop} {paths : StorePaths}
    {update : Option Bytes → Option Bytes} (hhonest : strikes.Honest) {α : Type} {p : Program α}
    (hasks : p.Uses Call.Asks) {tr : Trace} (houtside : tr.standing = .outside) (s : Scene) (w : World) :
    p.Safe (storeContract strikes assumes paths update) (fun value tr' _ =>
      value = (Id.run (StateT.run (p.run Scene.answer) ⟨w, s.session⟩)).1 ∧ tr'.standing = .outside)
      tr s := by
  induction p generalizing tr s w with
  | done value => exact ⟨rfl, houtside⟩
  | call c next ih =>
    obtain ⟨hcall, hnext⟩ := hasks
    intro s₀ hdrift answer struck s' hanswer
    cases hanswer with
    | struck hstrikes =>
      exact absurd hstrikes (Strikes.OnFiles.not_strikes hhonest.onFiles hcall.faultPoint?_eq)
    | performed =>
      have hturn := hcall.turn?_eq (s₀.perform c).1 false
      have hsame : s₀.session = Scene.session ⟨w, s.session⟩ := hdrift.1
      obtain ⟨hreply, hsession⟩ := hcall.perform_congr hsame
      refine ⟨?_, ?_⟩
      · rw [hcall.files_perform]
        exact .aside hturn
      · have hstanding : Trace.standing (tr ++ [⟨c, (s₀.perform c).1, false⟩]) = .outside := by
          rw [Trace.standing_append_singleton, Standing.next, hturn, Option.getD_none, houtside]
        refine (ih _ (hnext _) hstanding _ (Scene.perform c ⟨w, s.session⟩).2.world).mono ?_
        rintro value tr' s' ⟨rfl, hstanding⟩
        refine ⟨?_, hstanding⟩
        rw [hsession, hreply]
        have hrun : Id.run (StateT.run (Program.run Scene.answer (.call c next)) ⟨w, s.session⟩) =
            Id.run (StateT.run (Program.run Scene.answer (next (Scene.answer c ⟨w, s.session⟩).1))
              (Scene.answer c ⟨w, s.session⟩).2) := rfl
        rw [hrun, hcall.answer_eq_perform]

namespace Action

variable {σ α β : Type}

/-- Whether an action makes only calls that ask, and neither reads nor changes its state. -/
def Asks (action : Action σ α) : Prop :=
  ∃ p : Program (Except Failure α), p.Uses Call.Asks ∧
    ∀ state, action state = p.bind fun outcome => .done (outcome, state)

theorem asks_pure (value : α) : (pure value : Action σ α).Asks :=
  ⟨.done (.ok value), trivial, fun _ => rfl⟩

theorem asks_throw (failure : Failure) : (throw failure : Action σ α).Asks :=
  ⟨.done (.error failure), trivial, fun _ => rfl⟩

theorem asks_ask {c : Call} (hasks : c.Asks) : (ask c : Action σ c.Reply).Asks :=
  ⟨.call c .done, ⟨hasks, fun _ => trivial⟩, fun _ => rfl⟩

/-- Goes on with a program where there is a value. -/
def goOn (next : α → Program (Except Failure β)) : Except Failure α → Program (Except Failure β)
  | .ok value => next value
  | .error failure => .done (.error failure)

theorem asks_bind {first : Action σ α} {next : α → Action σ β} (hfirst : first.Asks)
    (hnext : ∀ value, (next value).Asks) : (first >>= next).Asks := by
  obtain ⟨p, hp, hfirst⟩ := hfirst
  choose q hq hnext using hnext
  refine ⟨p.bind (goOn q), Program.uses_bind hp fun outcome => ?_, fun state => ?_⟩
  · cases outcome with
    | ok value => exact hq value
    | error failure => trivial
  · have hbind : (first >>= next : Action σ β) state =
        (first state).bind fun result => ExceptT.bindCont next result.1 result.2 := rfl
    rw [hbind, hfirst, Program.bind_assoc, Program.bind_assoc]
    refine congrArg (Program.bind p) (funext fun outcome => ?_)
    cases outcome with
    | ok value => exact hnext value state
    | error failure => rfl

theorem asks_map {f : α → β} {action : Action σ α} (hasks : action.Asks) : (f <$> action).Asks := by
  rw [← bind_pure_comp]
  exact asks_bind hasks fun value => asks_pure (f value)

theorem asks_attempt {action : Action σ α} (hasks : action.Asks) : (attempt action).Asks := by
  obtain ⟨p, hp, haction⟩ := hasks
  refine ⟨p.bind fun outcome => .done (.ok outcome), Program.uses_bind hp fun _ => trivial, fun state => ?_⟩
  have hattempt : (attempt action) state = (action state).bind fun result =>
    .done (.ok result.1, result.2) := rfl
  rw [hattempt, haction, Program.bind_assoc, Program.bind_assoc]
  rfl

end Action

namespace Prompt

variable {σ : Type}

theorem asks_answer (source : SecretSource) (prompt : Text) :
    (answer source prompt : Action σ _).Asks := by
  cases source with
  | script => exact Action.asks_ask (c := .nextAnswer prompt) trivial
  | terminal =>
    refine Action.asks_bind (Action.asks_attempt (Action.asks_ask trivial)) fun outcome => ?_
    split
    · exact Action.asks_pure _
    · exact Action.asks_bind (Action.asks_ask trivial) fun _ => Action.asks_pure _
    · exact Action.asks_bind (Action.asks_ask trivial) fun _ => Action.asks_pure _
    · exact Action.asks_bind (Action.asks_ask trivial) fun _ => Action.asks_pure _
    · exact Action.asks_bind (Action.asks_ask trivial) fun _ => Action.asks_pure _
    · exact Action.asks_throw _

theorem asks_secret (source : SecretSource) (prompt : Text) :
    (secret source prompt : Action σ _).Asks := by
  refine Action.asks_bind (asks_answer source prompt) fun entered => ?_
  split
  · exact Action.asks_throw _
  · split
    · exact Action.asks_throw _
    · exact Action.asks_pure _

/-- Gives a secret that keeps the rules, by what they say of it. -/
def accept (given : Secret) (verdict? : Option Policy.Verdict) : Action σ Secret :=
  match verdict? with
  | none => throw .unencodable
  | some verdict =>
    match verdict.error? with
    | some error => Action.refuse error
    | none => pure given

theorem newSecret_eq (source : SecretSource) (identity : Text) :
    (newSecret source identity : Action σ Secret) = (do
      let given ← secret source new
      let again ← secret source confirmation
      if given ≠ again then
        Action.refuse (.invalid (text "passwords don't match"))
      accept given (Policy.check? (.bytes given.octets) identity)) := rfl

theorem asks_accept (given : Secret) (verdict? : Option Policy.Verdict) :
    (accept given verdict? : Action σ Secret).Asks := by
  unfold accept
  split
  · exact Action.asks_throw _
  · split
    · exact Action.asks_throw _
    · exact Action.asks_pure _

theorem asks_newSecret (source : SecretSource) (identity : Text) :
    (newSecret source identity : Action σ _).Asks := by
  rw [newSecret_eq]
  refine Action.asks_bind (asks_secret source new) fun given => ?_
  refine Action.asks_bind (asks_secret source confirmation) fun again => ?_
  split
  · exact Action.asks_bind (Action.asks_throw _) fun _ => asks_accept given _
  · exact asks_accept given _

end Prompt

/-- What an action that only asks gives does not depend on its state. -/
theorem Action.Asks.run_eq {σ α : Type} {action : Action σ α} (hasks : action.Asks) (s : Scene)
    (state state' : σ) : (s.run state action).1.1 = (s.run state' action).1.1 := by
  obtain ⟨p, -, haction⟩ := hasks
  simp only [Scene.run, haction, Program.run_bind]
  rfl

/-- An action that only asks gives what its session decides, and nobody holds the store for it. -/
theorem Action.safe_of_asking {strikes : Strikes} {assumes : FileSystem → Prop} {paths : StorePaths}
    {update : Option Bytes → Option Bytes} (hhonest : strikes.Honest) {σ α : Type}
    {action : Action σ α} (hasks : action.Asks) {state : σ} {tr : Trace} {s : Scene}
    (houtside : tr.standing = .outside) (w : World)
    {post : Except Failure α → σ → Trace → Scene → Prop}
    (hpost : ∀ (tr' : Trace) s', tr'.standing = .outside →
      post (Scene.run ⟨w, s.session⟩ state action).1.1 state tr' s') :
    action.Safe (storeContract strikes assumes paths update) post state tr s := by
  obtain ⟨p, hp, haction⟩ := hasks
  have hgives : (Scene.run ⟨w, s.session⟩ state action).1.1 =
      (Id.run (StateT.run (p.run Scene.answer) ⟨w, s.session⟩)).1 := by
    simp only [Scene.run, haction, Program.run_bind]
    rfl
  unfold Safe
  rw [haction]
  refine Program.Safe.bind ((Program.Safe.of_asking hhonest hp houtside s w).mono ?_)
  rintro outcome tr' s' ⟨houtcome, hstanding⟩
  have hafter := hpost tr' s' hstanding
  rw [hgives, ← houtcome] at hafter
  exact hafter

end CredentialStore
