import KnxStack.Lib.Runs

/-!
# Systems with outputs, and what an observer cannot tell

A system that answers each call with outputs. An unwinding relation relates states that an observer
of the outputs is meant not to tell apart: one call takes related states to related states with the
same outputs.

- `Unwinding.run`: then so does every run.
-/

set_option autoImplicit false

namespace KnxStack.Lib

universe u v w

variable {σ : Type u} {α : Type v} {β : Type w} (step : σ → α → σ × List β)

/-- The next state. -/
def nextState (s : σ) (a : α) : σ := (step s a).1

/-- The outputs of a run. -/
def outputs (s : σ) : List α → List β
  | [] => []
  | a :: calls => (step s a).2 ++ outputs (nextState step s a) calls

/-- `R` relates states that the calls with `P` do not tell apart. -/
structure Unwinding (R : σ → σ → Prop) (P : σ → α → Prop) : Prop where
  next : ∀ s s' a, R s s' → P s a → R (nextState step s a) (nextState step s' a)
  output : ∀ s s' a, R s s' → P s a → (step s' a).2 = (step s a).2

variable {step}

theorem Unwinding.run {R : σ → σ → Prop} {P : σ → α → Prop} (h : Unwinding step R P) {s s' : σ}
    (hR : R s s') {calls : List α} (hP : Along (nextState step) P s calls) :
    R (Lib.run (nextState step) s calls) (Lib.run (nextState step) s' calls)
      ∧ outputs step s' calls = outputs step s calls := by
  induction calls generalizing s s' with
  | nil => exact ⟨hR, rfl⟩
  | cons a calls ih =>
    obtain ⟨hrelated, houtputs⟩ := ih (h.next s s' a hR hP.1) hP.2
    refine ⟨hrelated, ?_⟩
    rw [outputs, outputs, h.output s s' a hR hP.1, houtputs]

end KnxStack.Lib
