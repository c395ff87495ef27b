import CredentialStore.Program.Call

namespace CredentialStore

/-- Work that ends in a value after any number of calls. It does not say who answers them, so one program can be
    run on real files, on a file system that is a value, or call by call between the calls of others. -/
inductive Program (α : Type) where
  | done (value : α)
  | call (c : Call) (next : c.Answer → Program α)

namespace Program

variable {α β γ : Type}

def bind : Program α → (α → Program β) → Program β
  | done value, f => f value
  | call c next, f => call c fun answer => (next answer).bind f

instance : Monad Program where
  pure := done
  bind := bind

theorem bind_done (value : α) (f : α → Program β) : (done value).bind f = f value := rfl

theorem bind_done_right (p : Program α) : p.bind done = p := by
  induction p with
  | done value => rfl
  | call c next ih => exact congrArg (call c) (funext ih)

theorem bind_assoc (p : Program α) (f : α → Program β) (g : β → Program γ) :
    (p.bind f).bind g = p.bind fun value => (f value).bind g := by
  induction p with
  | done value => rfl
  | call c next ih => exact congrArg (call c) (funext ih)

instance : LawfulMonad Program := LawfulMonad.mk' Program
  (fun p => bind_done_right p)
  (fun value f => bind_done value f)
  (fun p f g => bind_assoc p f g)

/-- Runs a program with someone who answers its calls. -/
def run {m : Type → Type} [Monad m] (answer : (c : Call) → m c.Answer) : Program α → m α
  | done value => pure value
  | call c next => answer c >>= fun reply => (next reply).run answer

/-- One program after another runs the second after the first. -/
theorem run_bind {m : Type → Type} [Monad m] [LawfulMonad m] (answer : (c : Call) → m c.Answer)
    (p : Program α) (f : α → Program β) :
    (p.bind f).run answer = p.run answer >>= fun value => (f value).run answer := by
  induction p with
  | done value => simp [bind, run]
  | call c next ih => simp [bind, run, ih]

/-- Whether every call that a program can make is among the allowed ones. -/
def Uses (allowed : Call → Prop) : Program α → Prop
  | done _ => True
  | call c next => allowed c ∧ ∀ answer, (next answer).Uses allowed

theorem uses_bind {allowed : Call → Prop} {p : Program α} {f : α → Program β}
    (first : p.Uses allowed) (rest : ∀ value, (f value).Uses allowed) : (p.bind f).Uses allowed := by
  induction p with
  | done value => exact rest value
  | call c next ih => exact ⟨first.1, fun answer => ih answer (first.2 answer)⟩

end Program

end CredentialStore
