import Mathlib.Data.List.Basic

/-!
# Runs of a step function

A system that answers a sequence of calls: `run step s calls` is the state after the calls, and
`Along step P s calls` says that `P` holds of every state and call met on the way.

- `run_append`: one run after another.
- `run_invariant`: what every step keeps, every run keeps.
- `run_invariant_along`: the same for the runs whose steps all meet a condition.
- `run_invariant_since`: the same for the runs that meet it since they last started afresh.
- `along_of_forall_mem`: a condition on the calls alone holds along runs of such calls.
- `Along.and`, `Along.right`: two conditions along one run.
- `along_of_along`: what a condition gives at the states of an invariant, it gives along runs.
- `along_iff_along`: two conditions that agree at every state of an invariant agree on runs.
-/

set_option autoImplicit false

namespace KnxStack.Lib

universe u v

variable {σ : Type u} {α : Type v} (step : σ → α → σ)

/-- State after a sequence of calls. -/
def run (s : σ) (calls : List α) : σ := calls.foldl step s

@[simp] theorem run_nil (s : σ) : run step s [] = s := rfl

@[simp] theorem run_cons (s : σ) (a : α) (calls : List α) :
    run step s (a :: calls) = run step (step s a) calls := rfl

theorem run_append (s : σ) (calls calls' : List α) :
    run step s (calls ++ calls') = run step (run step s calls) calls' :=
  List.foldl_append

/-- `P` holds of every state of the run together with the call made there. -/
def Along (P : σ → α → Prop) (s : σ) : List α → Prop
  | [] => True
  | a :: calls => P s a ∧ Along P (step s a) calls

@[simp] theorem along_nil (P : σ → α → Prop) (s : σ) : Along step P s [] := trivial

@[simp] theorem along_cons (P : σ → α → Prop) (s : σ) (a : α) (calls : List α) :
    Along step P s (a :: calls) ↔ P s a ∧ Along step P (step s a) calls := Iff.rfl

instance decidableAlong (P : σ → α → Prop) [∀ s a, Decidable (P s a)] (s : σ)
    (calls : List α) : Decidable (Along step P s calls) :=
  match calls with
  | [] => isTrue trivial
  | a :: rest =>
      have : Decidable (Along step P (step s a) rest) := decidableAlong P (step s a) rest
      inferInstanceAs (Decidable (P s a ∧ Along step P (step s a) rest))

variable {step}

theorem run_invariant {Inv : σ → Prop} (hstep : ∀ s a, Inv s → Inv (step s a)) {s : σ}
    (hs : Inv s) (calls : List α) : Inv (run step s calls) := by
  induction calls generalizing s with
  | nil => exact hs
  | cons a calls ih => exact ih (hstep s a hs)

theorem run_invariant_along {Inv : σ → Prop} {P : σ → α → Prop}
    (hstep : ∀ s a, Inv s → P s a → Inv (step s a)) {s : σ} (hs : Inv s) {calls : List α}
    (hP : Along step P s calls) : Inv (run step s calls) := by
  induction calls generalizing s with
  | nil => exact hs
  | cons a calls ih => exact ih (hstep s a hs hP.1) hP.2

/-- `P` holds of the states of the run and the calls made there, from the last call on that starts
afresh; `before` stands for what came in front. -/
def Since (step : σ → α → σ) (P : σ → α → Prop) (afresh : α → Prop) (s : σ) (before : Prop) :
    List α → Prop
  | [] => before
  | a :: calls => Since step P afresh (step s a) (P s a ∧ (afresh a ∨ before)) calls

/-- Invariant rule for runs that meet a condition since they last started afresh. `Base` is what
every step keeps. -/
theorem run_invariant_since {Base Inv : σ → Prop} {P : σ → α → Prop} {afresh : α → Prop}
    (hbase : ∀ s a, Base s → Base (step s a))
    (hstep : ∀ s a, Base s → P s a → afresh a ∨ Inv s → Inv (step s a)) {s : σ} (hs : Base s)
    {before : Prop} (hbefore : before → Inv s) {calls : List α}
    (h : Since step P afresh s before calls) : Base (run step s calls) ∧ Inv (run step s calls) := by
  induction calls generalizing s before with
  | nil => exact ⟨hs, hbefore h⟩
  | cons a calls ih =>
    refine ih (hbase s a hs) ?_ h
    rintro ⟨hP, hkept⟩
    exact hstep s a hs hP (hkept.imp_right hbefore)

theorem along_of_forall_mem {P : α → Prop} (s : σ) {calls : List α} (h : ∀ a ∈ calls, P a) :
    Along step (fun _ a => P a) s calls := by
  induction calls generalizing s with
  | nil => trivial
  | cons a calls ih =>
    refine ⟨h a List.mem_cons_self, ih (step s a) ?_⟩
    intro b hb
    exact h b (List.mem_cons_of_mem a hb)

theorem Along.and {P Q : σ → α → Prop} {s : σ} {calls : List α} (hP : Along step P s calls)
    (hQ : Along step Q s calls) : Along step (fun s a => P s a ∧ Q s a) s calls := by
  induction calls generalizing s with
  | nil => trivial
  | cons a calls ih => exact ⟨⟨hP.1, hQ.1⟩, ih hP.2 hQ.2⟩

theorem Along.right {P Q : σ → α → Prop} {s : σ} {calls : List α}
    (h : Along step (fun s a => P s a ∧ Q s a) s calls) : Along step Q s calls := by
  induction calls generalizing s with
  | nil => trivial
  | cons a calls ih => exact ⟨h.1.2, ih h.2⟩

/-- What a condition gives at the states of an invariant that it keeps, it gives along runs. -/
theorem along_of_along {Inv : σ → Prop} {P Q : σ → α → Prop}
    (hstep : ∀ s a, Inv s → P s a → Inv (step s a)) (hPQ : ∀ s a, Inv s → P s a → Q s a) {s : σ}
    (hs : Inv s) {calls : List α} (hP : Along step P s calls) : Along step Q s calls := by
  induction calls generalizing s with
  | nil => trivial
  | cons a calls ih => exact ⟨hPQ s a hs hP.1, ih (hstep s a hs hP.1) hP.2⟩

/-- Two conditions that agree on the states of an invariant which the first one keeps hold along
the same runs. -/
theorem along_iff_along {Inv : σ → Prop} {P Q : σ → α → Prop}
    (hstep : ∀ s a, Inv s → P s a → Inv (step s a)) (hPQ : ∀ s a, Inv s → (P s a ↔ Q s a))
    {s : σ} (hs : Inv s) (calls : List α) : Along step P s calls ↔ Along step Q s calls := by
  induction calls generalizing s with
  | nil => exact Iff.rfl
  | cons a calls ih =>
    rw [along_cons, along_cons, hPQ s a hs]
    constructor
    · rintro ⟨hq, hrest⟩
      exact ⟨hq, (ih (hstep s a hs ((hPQ s a hs).mpr hq))).mp hrest⟩
    · rintro ⟨hq, hrest⟩
      exact ⟨hq, (ih (hstep s a hs ((hPQ s a hs).mpr hq))).mpr hrest⟩

end KnxStack.Lib
