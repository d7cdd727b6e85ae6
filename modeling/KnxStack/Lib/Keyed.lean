import Mathlib.Data.List.Basic
import Mathlib.Data.List.Induction
import Mathlib.Data.List.Nodup

/-!
# First matches in a list

A vector that is searched for the first element with a given key, as `std::find_if` does, and then
changed at that place. `List.find?` is the lookup and `List.eraseP` the removal; `updateFirst` is
the change.

A map that is filled from a list, as `std::map::operator[]` in a loop does, has of every key the last
element: `foldl_update_eq_getLast?`.
-/

set_option autoImplicit false

namespace KnxStack.Lib

universe u v

variable {α : Type u} {κ : Type v}

/-- Change the first element that satisfies `p`. -/
def updateFirst (p : α → Bool) (f : α → α) : List α → List α
  | [] => []
  | a :: l => if p a then f a :: l else a :: updateFirst p f l

@[simp] theorem updateFirst_nil (p : α → Bool) (f : α → α) : updateFirst p f [] = [] := rfl

@[simp] theorem updateFirst_singleton (p : α → Bool) (f : α → α) (a : α) :
    updateFirst p f [a] = [if p a then f a else a] := by
  by_cases h : p a = true <;> simp [updateFirst, h]

@[simp] theorem length_updateFirst (p : α → Bool) (f : α → α) (l : List α) :
    (updateFirst p f l).length = l.length := by
  induction l with
  | nil => rfl
  | cons a l ih =>
    unfold updateFirst
    split
    · rfl
    · simp [ih]

theorem nodup_map_of_sublist {key : α → κ} {l l' : List α} (hs : l'.Sublist l)
    (h : (l.map key).Nodup) : (l'.map key).Nodup :=
  h.sublist (hs.map key)

/-- An element appended with a key that is not in use keeps the keys distinct, and only such an
element does. -/
theorem nodup_map_append_singleton {key : α → κ} {l : List α} {a : α} (h : (l.map key).Nodup) :
    ((l ++ [a]).map key).Nodup ↔ ∀ b ∈ l, key b ≠ key a := by
  rw [List.map_append, List.nodup_append]
  constructor
  · rintro ⟨-, -, hdisj⟩ b hb
    exact hdisj (key b) (List.mem_map_of_mem hb) (key a) (by simp)
  · intro hne
    refine ⟨h, by simp, ?_⟩
    intro x hx y hy
    obtain ⟨b, hb, rfl⟩ := List.mem_map.mp hx
    simp only [List.map_cons, List.map_nil, List.mem_singleton] at hy
    subst hy
    exact hne b hb

theorem find?_append_singleton {p : α → Bool} {l : List α} {a : α} (ha : p a = true)
    (hl : ∀ b ∈ l, p b = false) : (l ++ [a]).find? p = some a := by
  rw [List.find?_append, List.find?_eq_none.mpr]
  · simp [ha]
  · intro b hb
    simp [hl b hb]

/-- The last assignment stays. A map filled from a list, some of whose elements are skipped. -/
theorem foldl_update_eq_getLast? {β : Type u} [DecidableEq κ] (skip : α → Prop) [DecidablePred skip]
    (key : α → κ) (value : α → β) (l : List α) (k : κ) :
    l.foldl (fun m a => if skip a then m else Function.update m (key a) (some (value a)))
        (fun _ => none) k
      = (l.filter fun a => ¬ skip a ∧ key a = k).getLast?.map value := by
  induction l using List.reverseRecOn with
  | nil => rfl
  | append_singleton l a ih =>
    rw [List.foldl_append, List.foldl_cons, List.foldl_nil, List.filter_append]
    by_cases hskip : skip a
    · have hdrop : [a].filter (fun a => ¬ skip a ∧ key a = k) = [] :=
        List.filter_eq_nil_iff.mpr (by simp [hskip])
      rw [if_pos hskip, hdrop, List.append_nil, ih]
    · rw [if_neg hskip]
      by_cases hkey : key a = k
      · have hkeep : [a].filter (fun a => ¬ skip a ∧ key a = k) = [a] :=
          List.filter_eq_self.mpr (by simp [hskip, hkey])
        rw [hkeep, hkey, Function.update_self, List.getLast?_append_of_ne_nil _ (by simp)]
        rfl
      · have hdrop : [a].filter (fun a => ¬ skip a ∧ key a = k) = [] :=
          List.filter_eq_nil_iff.mpr (by simp [hkey])
        rw [hdrop, List.append_nil, Function.update_of_ne (Ne.symm hkey), ih]

end KnxStack.Lib
