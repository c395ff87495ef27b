import CredentialStore.Proofs.Run.Telling
import CredentialStore.Proofs.Secret.Answers

namespace CredentialStore

/-- The prompt that a call shows. -/
def Call.prompt? : Call → Option Text
  | nextAnswer prompt | readTerminal prompt => some prompt
  | _ => none

namespace Trace

/-- The prompts that were shown, in order. -/
def prompts (tr : Trace) : List Text := tr.filterMap fun e => e.call.prompt?

/-- Whether no prompt comes after a call on the files. -/
def PromptsFirst (tr : Trace) : Prop :=
  tr.Pairwise fun e later => e.call.faultPoint?.isSome → later.call.prompt? = none

theorem prompts_append (tr rest : Trace) : prompts (tr ++ rest) = tr.prompts ++ rest.prompts :=
  List.filterMap_append

theorem prompts_eq_nil {tr : Trace} (hidle : ∀ e ∈ tr, e.call.prompt? = none) : tr.prompts = [] :=
  List.filterMap_eq_nil_iff.2 hidle

/-- Prompts come first where the calls on the files begin behind all of them. -/
theorem promptsFirst_append {first rest : Trace} (hfirst : ∀ e ∈ first, e.call.faultPoint? = none)
    (hrest : ∀ e ∈ rest, e.call.prompt? = none) : PromptsFirst (first ++ rest) := by
  have hidle : ∀ e ∈ first, ¬e.call.faultPoint?.isSome := by
    intro e he
    simp [hfirst e he]
  refine List.pairwise_append.2 ⟨?_, ?_, fun e he later _ hpoint => absurd hpoint (hidle e he)⟩
  · exact List.pairwise_of_forall_mem_list fun e he later _ hpoint => absurd hpoint (hidle e he)
  · exact List.pairwise_of_forall_mem_list fun e _ later hlater _ => hrest later hlater

end Trace

/-- Prompts are not calls on the files. -/
theorem Call.prompt?_eq_none {c : Call} (hpoint : c.faultPoint?.isSome) : c.prompt? = none := by
  cases c <;> first | rfl | cases hpoint

/-- A session records the prompt of a call. -/
theorem Scene.Answers.prompts {s s' : Scene} {e : Event} (hanswer : Scene.Answers .foreign s e s') :
    s'.session.prompts = s.session.prompts ++ e.call.prompt?.toList := by
  cases hanswer with
  | performed c =>
    cases c with
    | nextAnswer prompt => rfl
    | readTerminal prompt =>
      simp only [Scene.perform, Session.readTerminal]
      split <;> rfl
    | _ => exact (List.append_nil _).symm
  | struck hstrikes =>
    rw [Call.prompt?_eq_none hstrikes.1]
    exact (List.append_nil _).symm

/-- A session records the prompts of a run. -/
theorem Program.Runs.prompts {α : Type} {p : Program α} {s s' : Scene} {tr : Trace} {value : α}
    (hruns : p.Runs .foreign s tr value s') : s'.session.prompts = s.session.prompts ++ tr.prompts := by
  induction hruns with
  | done => exact (List.append_nil _).symm
  | @call _ _ _ e _ rest _ hanswer hrest ih =>
    have hcons : Trace.prompts (e :: rest) = e.call.prompt?.toList ++ rest.prompts := by
      cases hprompt : e.call.prompt? <;> simp [Trace.prompts, hprompt]
    rw [ih, hanswer.prompts, hcons, List.append_assoc]

/-- A run of calls that leave the files as they are. -/
theorem Program.Runs.files_eq {strikes : Strikes} {α : Type} {p : Program α} {s s' : Scene} {tr : Trace}
    {value : α} (hruns : p.Runs strikes s tr value s')
    (hleaves : ∀ e ∈ tr, e.call.LeavesFiles ∨ e.call.Asks) : s'.world.files = s.world.files := by
  induction hruns with
  | done => rfl
  | call hanswer hrest ih =>
    rw [ih fun e he => hleaves e (List.mem_cons_of_mem _ he)]
    cases hanswer with
    | struck => rfl
    | performed c =>
      obtain hleaves | hasks := hleaves _ List.mem_cons_self
      · rw [hleaves.perform_eq]
        exact hleaves.files_answer _
      · exact hasks.files_perform _

/-- A prompt as a source shows it. -/
def SecretSource.shown : SecretSource → Text → Text
  | .script, prompt => prompt
  | .terminal, prompt => prompt ++ text " "

/-- What was typed, where it is an answer. -/
def Typed.entered? : Typed → Option Text
  | .answer entered => some entered
  | .failure _ => none

/-- Whether a failure at the terminal counts as no answer: the input ends, the user interrupts, or the input
    is no text. -/
def Failure.LeavesUnanswered : Failure → Prop
  | endOfInput | interrupted | undecodable | unencodable => True
  | _ => False

namespace Session

/-- The answers at the prompts to come, in order; after them there are none. -/
def answers (session : Session) : SecretSource → List (Option Text)
  | .script => session.script
  | .terminal => session.typed.map Typed.entered?

/-- Whether there is an answer or none at every prompt, and no failure of another kind. -/
def AnswersPlainly (session : Session) : SecretSource → Prop
  | .script => True
  | .terminal => ∀ failure, .failure failure ∈ session.typed → failure.LeavesUnanswered

/-- Whether a session showed one more prompt and took what there was at it. -/
structure Answered (source : SecretSource) (prompt : Text) (before after : Session) : Prop where
  answers : after.answers source = (before.answers source).tail
  prompts : after.prompts = before.prompts ++ [source.shown prompt]
  plainly : before.AnswersPlainly source → after.AnswersPlainly source

variable {session : Session} {prompt : Text}

theorem Answered.of_nextAnswer : Answered .script prompt session (session.nextAnswer prompt).2 :=
  ⟨rfl, rfl, fun hplain => hplain⟩

theorem Answered.of_readTerminal :
    Answered .terminal prompt session (session.readTerminal (prompt ++ text " ")).2 := by
  have hread : (session.readTerminal (prompt ++ text " ")).2 =
      { session with typed := session.typed.tail, prompts := session.prompts ++ [prompt ++ text " "] } := by
    unfold readTerminal
    split <;> rfl
  rw [hread]
  refine ⟨List.map_tail, rfl, fun hplain failure hmem => hplain failure ?_⟩
  exact List.mem_of_mem_tail hmem

end Session

namespace Prompt

/-- The secret that is taken from an answer, or why there is none. -/
def taken (prompt : Text) : Option Text → Except Failure Secret
  | none => .error (.credential (.noSecret prompt))
  | some entered =>
    match Secret.ofText? entered with
    | none => .error (.credential (.invalid (text "password is not valid text")))
    | some secret => .ok secret

/-- The prompts that are shown for some answers: all of them, or up to the first answer that is missing or
    has no bytes. -/
def asked (prompts : List Text) (answers : List (Option Text)) : List Text :=
  prompts.take ((answers.takeWhile fun answer => (answer.bind Text.toBytes?).isSome).length + 1)

/-- The secrets that some answers give at prompts, or why one of them is not given. -/
def given : List Text → List (Option Text) → Except Failure (List Secret)
  | [], _ => .ok []
  | prompt :: prompts, answers => do
    let first ← taken prompt answers.head?.join
    let rest ← given prompts answers.tail
    pure (first :: rest)

variable {prompt : Text} {prompts : List Text} {answers : List (Option Text)}

theorem isSome_toBytes?_iff_taken {answer : Option Text} :
    (answer.bind Text.toBytes?).isSome ↔ ∃ secret, taken prompt answer = .ok secret := by
  cases answer with
  | none => simp [taken]
  | some entered =>
    cases hbytes : entered.toBytes? <;> simp [taken, Secret.ofText?, hbytes]

theorem asked_cons_of_ok {secret : Secret} (htaken : taken prompt answers.head?.join = .ok secret) :
    asked (prompt :: prompts) answers = prompt :: asked prompts answers.tail := by
  have hsome := isSome_toBytes?_iff_taken.2 ⟨secret, htaken⟩
  cases answers with
  | nil => cases htaken
  | cons answer answers =>
    have hfirst : (answer.bind Text.toBytes?).isSome = true := by simpa using hsome
    simp [asked, hfirst]

theorem asked_cons_of_error {failure : Failure} (htaken : taken prompt answers.head?.join = .error failure) :
    asked (prompt :: prompts) answers = [prompt] := by
  cases answers with
  | nil => simp [asked]
  | cons answer answers =>
    have hfirst : ¬(answer.bind Text.toBytes?).isSome = true := by
      intro hsome
      obtain ⟨_, hok⟩ := isSome_toBytes?_iff_taken.1 hsome
      cases htaken.symm.trans (by simpa using hok)
    simp [asked, hfirst]

theorem given_cons_of_ok {first : Secret} (htaken : taken prompt answers.head?.join = .ok first) :
    given (prompt :: prompts) answers = (given prompts answers.tail).map (first :: ·) := by
  rw [given, htaken]
  cases given prompts answers.tail <;> rfl

theorem given_cons_of_error {failure : Failure} (htaken : taken prompt answers.head?.join = .error failure) :
    given (prompt :: prompts) answers = .error failure := by
  rw [given, htaken]
  rfl

theorem length_of_given {secrets : List Secret} (hgiven : given prompts answers = .ok secrets) :
    secrets.length = prompts.length := by
  induction prompts generalizing answers secrets with
  | nil =>
    cases hgiven
    rfl
  | cons prompt prompts ih =>
    cases htaken : taken prompt answers.head?.join with
    | error failure => cases (given_cons_of_error htaken).symm.trans hgiven
    | ok first =>
      rw [given_cons_of_ok htaken] at hgiven
      cases hrest : given prompts answers.tail with
      | error failure =>
        rw [hrest] at hgiven
        cases hgiven
      | ok rest =>
        rw [hrest] at hgiven
        cases hgiven
        rw [List.length_cons, List.length_cons, ih hrest]

variable {σ : Type} {source : SecretSource} {s : Scene}

/-- An answer is what the session has first. -/
theorem run_answer (state : σ) (prompt : Text) (hplain : s.session.AnswersPlainly source) :
    (s.run state (answer source prompt)).1.1 = .ok (s.session.answers source).head?.join ∧
      Session.Answered source prompt s.session (s.run state (answer source prompt)).2.session := by
  cases source with
  | script => exact ⟨run_nextAnswer s state prompt, .of_nextAnswer⟩
  | terminal =>
    have hanswered : Session.Answered .terminal prompt s.session
        (s.run state (Action.ask (.readTerminal (prompt ++ text " ")))).2.session := by
      rw [Scene.run_ask, Call.Asks.answer_eq_perform (c := .readTerminal _) trivial]
      exact .of_readTerminal
    have hread := run_readTerminal s state (prompt ++ text " ")
    rw [answer, Scene.run_bind, Scene.run_attempt]
    generalize s.run state (Action.ask (.readTerminal (prompt ++ text " "))) = result at hread hanswered ⊢
    obtain ⟨⟨outcome, state₁⟩, s₁⟩ := result
    obtain rfl : outcome = _ := hread
    unfold Session.readTerminal Session.answers
    cases htyped : s.session.typed with
    | nil => exact ⟨rfl, hanswered⟩
    | cons first rest =>
      cases first with
      | answer entered => exact ⟨rfl, hanswered⟩
      | failure failure =>
        have hleaves := hplain failure (by simp [htyped])
        cases failure <;> first | exact False.elim hleaves | exact ⟨rfl, hanswered⟩

/-- A secret is what is taken from the first answer of the session. -/
theorem run_secret (state : σ) (prompt : Text) (hplain : s.session.AnswersPlainly source) :
    (s.run state (secret source prompt)).1.1 = taken prompt (s.session.answers source).head?.join ∧
      Session.Answered source prompt s.session (s.run state (secret source prompt)).2.session := by
  obtain ⟨houtcome, hanswered⟩ := run_answer state prompt hplain
  rw [secret, Scene.run_bind]
  generalize s.run state (answer source prompt) = result at houtcome hanswered ⊢
  obtain ⟨⟨outcome, state₁⟩, s₁⟩ := result
  obtain rfl : outcome = _ := houtcome
  cases (s.session.answers source).head?.join with
  | none => exact ⟨rfl, hanswered⟩
  | some entered => cases hbytes : Secret.ofText? entered <;> simp only [taken, hbytes] <;> exact ⟨rfl, hanswered⟩

end Prompt

/-- Whether an action shows prompts in turn, as far as the answers reach, and makes something of the secrets
    once all were given. -/
def Action.Gathers {σ α : Type} (source : SecretSource) (prompts : List Text)
    (post : List Secret → Except Failure α → Prop) (action : Action σ α) : Prop :=
  ∀ (s : Scene) (state : σ), s.session.AnswersPlainly source →
    (s.run state action).2.session.prompts =
      s.session.prompts ++ (Prompt.asked prompts (s.session.answers source)).map source.shown ∧
    match Prompt.given prompts (s.session.answers source) with
    | .ok secrets => post secrets (s.run state action).1.1
    | .error failure => (s.run state action).1.1 = .error failure

namespace Action

variable {σ α β : Type} {source : SecretSource} {prompts : List Text}
  {post : List Secret → Except Failure α → Prop}

theorem gathers_pure {value : α} (hpost : post [] (.ok value)) :
    (pure value : Action σ α).Gathers source [] post :=
  fun _ _ _ => ⟨(List.append_nil _).symm, hpost⟩

theorem gathers_throw {failure : Failure} (hpost : post [] (.error failure)) :
    (throw failure : Action σ α).Gathers source [] post :=
  fun _ _ _ => ⟨(List.append_nil _).symm, hpost⟩

/-- A secret is asked for first, and the others once it is given. -/
theorem gathers_secret_bind {prompt : Text} {next : Secret → Action σ α}
    (hnext : ∀ first, (next first).Gathers source prompts fun rest => post (first :: rest)) :
    (Prompt.secret source prompt >>= next).Gathers source (prompt :: prompts) post := by
  intro s state hplain
  obtain ⟨houtcome, hanswered⟩ := Prompt.run_secret state prompt hplain
  rw [Scene.run_bind]
  generalize s.run state (Prompt.secret source prompt) = result at houtcome hanswered ⊢
  obtain ⟨⟨outcome, state₁⟩, s₁⟩ := result
  obtain rfl : outcome = _ := houtcome
  cases htaken : Prompt.taken prompt (s.session.answers source).head?.join with
  | error failure =>
    rw [Prompt.asked_cons_of_error htaken, Prompt.given_cons_of_error htaken]
    exact ⟨hanswered.prompts, rfl⟩
  | ok first =>
    obtain ⟨hprompts, hpost⟩ := hnext first s₁ state₁ (hanswered.plainly hplain)
    rw [hanswered.answers] at hprompts hpost
    rw [Prompt.asked_cons_of_ok htaken, Prompt.given_cons_of_ok htaken]
    refine ⟨?_, ?_⟩
    · rw [List.map_cons, ← List.singleton_append, ← List.append_assoc, ← hanswered.prompts]
      exact hprompts
    · generalize Prompt.given prompts (s.session.answers source).tail = rest at hpost
      cases rest <;> exact hpost

/-- What is made of the secrets can be handed on. -/
theorem gathers_map {action : Action σ α} {post : List Secret → Except Failure β → Prop} {f : α → β}
    (hgathers : action.Gathers source prompts fun secrets outcome => post secrets (outcome.map f)) :
    (f <$> action).Gathers source prompts post := by
  intro s state hplain
  have hrun : s.run state (f <$> action) =
      (((s.run state action).1.1.map f, (s.run state action).1.2), (s.run state action).2) := by
    rw [← bind_pure_comp, Scene.run_bind]
    generalize s.run state action = result
    obtain ⟨⟨outcome, state₁⟩, s₁⟩ := result
    cases outcome <;> rfl
  obtain ⟨hprompts, hpost⟩ := hgathers s state hplain
  rw [hrun]
  refine ⟨hprompts, ?_⟩
  cases hgiven : Prompt.given prompts (s.session.answers source) with
  | ok secrets => simpa only [hgiven] using hpost
  | error failure =>
    simp only [hgiven] at hpost
    rw [hpost]
    rfl

theorem Gathers.mono {action : Action σ α} {post' : List Secret → Except Failure α → Prop}
    (hgathers : action.Gathers source prompts post)
    (himp : ∀ secrets outcome, secrets.length = prompts.length → post secrets outcome →
      post' secrets outcome) : action.Gathers source prompts post' := by
  intro s state hplain
  obtain ⟨hprompts, hpost⟩ := hgathers s state hplain
  refine ⟨hprompts, ?_⟩
  cases hgiven : Prompt.given prompts (s.session.answers source) with
  | ok secrets =>
    rw [hgiven] at hpost
    exact himp secrets _ (Prompt.length_of_given hgiven) hpost
  | error failure =>
    rw [hgiven] at hpost
    exact hpost

end Action

theorem Policy.Verdict.error?_eq_none {verdict : Policy.Verdict} :
    verdict.error? = none ↔ verdict = .accepted := by
  cases verdict <;> simp [error?, reason?]

namespace Prompt

variable {σ : Type} {source : SecretSource}

/-- Whether two secrets are the same one, and the rules accept it for an identity. -/
def Accepted (identity : Text) (secrets : List Secret) (secret : Secret) : Prop :=
  secrets = [secret, secret] ∧ Policy.check? (.bytes secret.octets) identity = some .accepted

theorem gathers_accept {identity : Text} (given : Secret) :
    (accept given (Policy.check? (.bytes given.octets) identity) : Action σ Secret).Gathers source []
      fun rest outcome => ∀ secret, outcome = .ok secret ↔ Accepted identity (given :: given :: rest) secret := by
  have hrefused : ∀ {failure : Failure},
      Policy.check? (.bytes given.octets) identity ≠ some .accepted → ∀ secret,
        Except.error failure = .ok secret ↔ Accepted identity [given, given] secret := by
    refine fun hcheck secret => ⟨fun h => (by cases h), ?_⟩
    rintro ⟨hsame, haccepted⟩
    cases hsame
    exact absurd haccepted hcheck
  cases hcheck : Policy.check? (.bytes given.octets) identity with
  | none => exact Action.gathers_throw (hrefused (by simp [hcheck]))
  | some verdict =>
    cases herror : verdict.error? with
    | some error =>
      simp only [accept, herror]
      refine Action.gathers_throw (hrefused ?_)
      intro haccepted
      cases hcheck.symm.trans haccepted
      cases herror
    | none =>
      simp only [accept, herror]
      refine Action.gathers_pure fun secret => ⟨?_, ?_⟩
      · rintro ⟨⟩
        exact ⟨rfl, by rw [hcheck, Policy.Verdict.error?_eq_none.1 herror]⟩
      · rintro ⟨hsame, -⟩
        cases hsame
        rfl

/-- A new secret is given exactly where both answers are the same secret and it is accepted. -/
theorem gathers_newSecret (identity : Text) :
    (newSecret source identity : Action σ Secret).Gathers source [new, confirmation]
      fun secrets outcome => ∀ secret, outcome = .ok secret ↔ Accepted identity secrets secret := by
  rw [newSecret_eq]
  refine Action.gathers_secret_bind fun given => Action.gathers_secret_bind fun again => ?_
  by_cases hsame : given = again
  · rw [if_neg (not_not.2 hsame), ← hsame]
    exact gathers_accept given
  · rw [if_pos hsame]
    refine Action.gathers_throw fun secret => ⟨fun h => (by cases h), ?_⟩
    rintro ⟨htwice, -⟩
    cases htwice
    exact absurd rfl hsame

/-- A new secret is given where both answers are there, have the same bytes and keep the rules. -/
theorem run_newSecret_iff {identity : Text} {s : Scene} {state : σ}
    (hplain : s.session.AnswersPlainly source) (secret : Secret) :
    (s.run state (newSecret source identity)).1.1 = .ok secret ↔
      given [new, confirmation] (s.session.answers source) = .ok [secret, secret] ∧
        Policy.check? (.bytes secret.octets) identity = some .accepted := by
  obtain ⟨-, hrenewed⟩ := gathers_newSecret identity s state hplain
  cases hgiven : given [new, confirmation] (s.session.answers source) with
  | error failure =>
    rw [hgiven] at hrenewed
    rw [hrenewed]
    exact ⟨fun h => (by cases h), fun h => (by cases h.1)⟩
  | ok secrets =>
    rw [hgiven] at hrenewed
    rw [hrenewed secret, Except.ok.injEq, Accepted]

end Prompt

end CredentialStore
