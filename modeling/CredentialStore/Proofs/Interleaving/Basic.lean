import CredentialStore.Proofs.Run.Safe
import Mathlib.Logic.Function.Basic

namespace CredentialStore

/-- Programs on one world. -/
structure Ensemble (ι α : Type) where
  world : World
  session : ι → Session
  program : ι → Program α
  /-- Which programs have not stopped for good. -/
  live : ι → Prop

namespace Ensemble

variable {ι α : Type}

def stop (m : Ensemble ι α) (i : ι) : Ensemble ι α := { m with live := fun j => m.live j ∧ j ≠ i }

/-- The programs that installed a staging file, in order. -/
def installs (steps : List (ι × Event)) : List ι :=
  (steps.filter fun step => step.2.turn? = some .installed).map Prod.fst

@[simp] theorem installs_nil : installs ([] : List (ι × Event)) = [] := rfl

theorem installs_append (steps : List (ι × Event)) (i : ι) (e : Event) :
    installs (steps ++ [(i, e)]) =
      if e.turn? = some .installed then installs steps ++ [i] else installs steps := by
  by_cases hturn : e.turn? = some .installed <;> simp [installs, hturn]

variable [DecidableEq ι]

/-- One program gets an answer to its next call. -/
inductive Step (strikes : Strikes) : Ensemble ι α → ι × Event → Ensemble ι α → Prop
  | call {m : Ensemble ι α} {i : ι} {e : Event} {next : e.call.Answer → Program α} {s' : Scene}
      (hlive : m.live i) (hprogram : m.program i = .call e.call next)
      (hanswer : Scene.Answers strikes ⟨m.world, m.session i⟩ e s') :
      Step strikes m (i, e)
        { m with
          world := s'.world
          session := Function.update m.session i s'.session
          program := Function.update m.program i (next e.answer) }

/-- A run up to some point, with the steps that were taken. -/
inductive Run (strikes : Strikes) (first : Ensemble ι α) : List (ι × Event) → Ensemble ι α → Prop
  | start : Run strikes first [] first
  | step {steps : List (ι × Event)} {m m' : Ensemble ι α} {step : ι × Event}
      (hrun : Run strikes first steps m) (hstep : Step strikes m step m') :
      Run strikes first (steps ++ [step]) m'
  | stop {steps : List (ι × Event)} {m : Ensemble ι α} (hrun : Run strikes first steps m) (i : ι) :
      Run strikes first steps (m.stop i)

/-- The calls of one program. -/
def own (i : ι) (steps : List (ι × Event)) : Trace :=
  (steps.filter fun step => step.1 = i).map Prod.snd

@[simp] theorem own_nil (i : ι) : own i [] = [] := rfl

theorem own_append_self (i : ι) (steps : List (ι × Event)) (e : Event) :
    own i (steps ++ [(i, e)]) = own i steps ++ [e] := by
  simp [own]

theorem own_append_of_ne {i j : ι} (hne : j ≠ i) (steps : List (ι × Event)) (e : Event) :
    own j (steps ++ [(i, e)]) = own j steps := by
  simp [own, Ne.symm hne]

theorem standing_own_append_self (i : ι) (steps : List (ι × Event)) (e : Event) :
    (own i (steps ++ [(i, e)])).standing = (own i steps).standing.next e := by
  rw [own_append_self, Trace.standing_append_singleton]

/-- Where only one program stands in some way, and a call brings nobody else to stand that way, only one does
    so after the call. -/
theorem eq_of_standing_append (way : Standing → Prop) {steps : List (ι × Event)} {i : ι} {e : Event}
    (halone : ∀ j k, way (own j steps).standing → way (own k steps).standing → j = k)
    (hnext : ∀ j, j ≠ i → way (own j steps).standing → ¬way ((own i steps).standing.next e)) {j k : ι}
    (hj : way (own j (steps ++ [(i, e)])).standing) (hk : way (own k (steps ++ [(i, e)])).standing) : j = k := by
  by_cases hji : j = i
  · by_cases hki : k = i
    · rw [hji, hki]
    · rw [hji, standing_own_append_self] at hj
      rw [own_append_of_ne hki] at hk
      exact absurd hj (hnext k hki hk)
  · rw [own_append_of_ne hji] at hj
    by_cases hki : k = i
    · rw [hki, standing_own_append_self] at hk
      exact absurd hk (hnext j hji hj)
    · rw [own_append_of_ne hki] at hk
      exact halone j k hj hk

/-- While the other programs wait, a program can run to its end as it does alone. -/
theorem Run.of_runs {strikes : Strikes} {first m : Ensemble ι α} {steps : List (ι × Event)}
    (hrun : Run strikes first steps m) {i : ι} (hlive : m.live i) {tr : Trace} {value : α} {s' : Scene}
    (hruns : (m.program i).Runs strikes ⟨m.world, m.session i⟩ tr value s') :
    ∃ m', Run strikes first (steps ++ tr.map (Prod.mk i)) m' ∧ m'.world = s'.world ∧
      m'.program = Function.update m.program i (.done value) ∧
      m'.session = Function.update m.session i s'.session ∧ m'.live = m.live := by
  generalize hprogram : m.program i = p at hruns
  induction p generalizing steps m tr with
  | done last =>
    cases hruns
    exact ⟨m, by simpa using hrun, rfl, by rw [← hprogram, Function.update_eq_self],
      by rw [Function.update_eq_self], rfl⟩
  | call c next ih =>
    cases hruns with
    | @call _ s₁ _ e _ rest _ hanswer hrest =>
      have hnext := hrun.step (.call hlive hprogram hanswer)
      have hscene : s₁ = ⟨s₁.world, Function.update m.session i s₁.session i⟩ := by
        rw [Function.update_self]
      rw [hscene] at hrest
      obtain ⟨m', hrun', hworld, hdone, hsession, hstill⟩ :=
        ih e.answer hnext hlive (Function.update_self i _ _) hrest
      exact ⟨m', by simpa using hrun', hworld, by simpa using hdone, by simpa using hsession, hstill⟩

end Ensemble

end CredentialStore
