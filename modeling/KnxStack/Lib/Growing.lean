import Mathlib.Data.List.Nodup
import Mathlib.Data.List.Perm.Subperm

/-!
# Sequences that grow as they are written

A sequence to which elements are assigned by index, where an assignment past the end first fills the
gap with a blank element, and a set kept as a sequence, to which an element is added unless it is
there already.

- `getElem?_writeFrom`, `length_writeFrom`: what a block of assignments leaves.
- `mem_foldl_insertNew`, `foldl_insertNew_eq_self_iff`: adding elements one by one gives each of them,
  and gives back the sequence exactly when it has no repetition.
- `foldl_insertBounded_eq`: a limit on the length is not met where all elements come from a sequence
  that keeps it.
-/

set_option autoImplicit false

namespace KnxStack.Lib.Growing

universe u

variable {α : Type u} (blank : α)

/-! ## Assignment by index -/

/-- Assign one element, filling up to it. -/
def growSet (l : List α) (index : Nat) (a : α) : List α :=
  (l ++ List.replicate (index + 1 - l.length) blank).set index a

/-- Assign a block of elements, one after the other. -/
def writeFrom (l : List α) (start : Nat) : List α → List α
  | [] => l
  | a :: rest => writeFrom (growSet blank l start a) (start + 1) rest

theorem length_growSet (l : List α) (index : Nat) (a : α) :
    (growSet blank l index a).length = max l.length (index + 1) := by
  rw [growSet, List.length_set, List.length_append, List.length_replicate]
  omega

theorem getElem?_growSet (l : List α) (index : Nat) (a : α) (j : Nat) :
    (growSet blank l index a)[j]?
      = if j = index then some a
        else if j < l.length then l[j]?
        else if j < index then some blank else none := by
  have hlength : (l ++ List.replicate (index + 1 - l.length) blank).length
      = max l.length (index + 1) := by
    rw [List.length_append, List.length_replicate]
    omega
  rw [growSet, List.getElem?_set, hlength]
  by_cases hj : j = index
  · subst hj
    rw [if_pos rfl, if_pos (by omega), if_pos rfl]
  · rw [if_neg (Ne.symm hj), if_neg hj]
    by_cases hold : j < l.length
    · rw [if_pos hold, List.getElem?_append_left hold]
    · rw [if_neg hold, List.getElem?_append_right (by omega), List.getElem?_replicate]
      by_cases hgap : j < index
      · rw [if_pos (by omega), if_pos hgap]
      · rw [if_neg (by omega), if_neg hgap]

theorem length_writeFrom (news : List α) :
    ∀ (l : List α) (start : Nat), (writeFrom blank l start news).length
      = if news = [] then l.length else max l.length (start + news.length) := by
  induction news with
  | nil =>
    intro l start
    rfl
  | cons a rest ih =>
    intro l start
    rw [writeFrom, ih, length_growSet, if_neg (List.cons_ne_nil a rest), List.length_cons]
    by_cases hrest : rest = []
    · rw [if_pos hrest, hrest, List.length_nil]
    · rw [if_neg hrest]
      omega

theorem getElem?_writeFrom (news : List α) :
    ∀ (l : List α) (start j : Nat), (writeFrom blank l start news)[j]?
      = if start ≤ j ∧ j < start + news.length then news[j - start]?
        else if j < l.length then l[j]?
        else if j < start + news.length ∧ news ≠ [] then some blank else none := by
  induction news with
  | nil =>
    intro l start j
    rw [writeFrom, List.length_nil, if_neg (by omega)]
    by_cases hold : j < l.length
    · rw [if_pos hold]
    · rw [if_neg hold, if_neg (by simp), List.getElem?_eq_none (by omega)]
  | cons a rest ih =>
    intro l start j
    rw [writeFrom, ih, getElem?_growSet, length_growSet, List.length_cons]
    by_cases hinside : start ≤ j ∧ j < start + (rest.length + 1)
    · rw [if_pos hinside]
      by_cases hfirst : j = start
      · rw [if_neg (by omega), if_pos (by omega), if_pos hfirst, hfirst, Nat.sub_self]
        rfl
      · have hindex : j - start = (j - (start + 1)) + 1 := by omega
        rw [if_pos (by omega), hindex, List.getElem?_cons_succ]
    · rw [if_neg (by omega), if_neg hinside]
      have hne : j ≠ start := by omega
      by_cases hold : j < l.length
      · rw [if_pos (by omega), if_neg hne, if_pos hold, if_pos hold]
      · rw [if_neg hold, if_neg hne, if_neg hold]
        by_cases hgap : j < start
        · rw [if_pos (by omega), if_pos hgap, if_pos ⟨by omega, List.cons_ne_nil a rest⟩]
        · rw [if_neg (by omega), if_neg (by omega), if_neg (by omega)]

theorem writeFrom_nil_zero (news : List α) : writeFrom blank [] 0 news = news := by
  apply List.ext_getElem?
  intro j
  rw [getElem?_writeFrom, List.length_nil, Nat.sub_zero]
  by_cases hj : j < news.length
  · rw [if_pos (by omega)]
  · rw [if_neg (by omega), if_neg (by omega), if_neg (by omega), List.getElem?_eq_none (by omega)]

/-! ## Adding what is not there -/

variable [DecidableEq α]

/-- Add an element unless it is there. -/
def insertNew (l : List α) (a : α) : List α := if a ∈ l then l else l ++ [a]

theorem mem_insertNew {l : List α} {a b : α} : b ∈ insertNew l a ↔ b ∈ l ∨ b = a := by
  rw [insertNew]
  split
  · rename_i hmem
    constructor
    · exact Or.inl
    · rintro (hb | rfl)
      · exact hb
      · exact hmem
  · rw [List.mem_append, List.mem_singleton]

theorem length_insertNew_le (l : List α) (a : α) : (insertNew l a).length ≤ l.length + 1 := by
  rw [insertNew]
  split
  · exact Nat.le_succ _
  · rw [List.length_append]
    exact Nat.le_refl _

theorem mem_foldl_insertNew (news : List α) :
    ∀ {l : List α} {b : α}, b ∈ news.foldl insertNew l ↔ b ∈ l ∨ b ∈ news := by
  induction news with
  | nil =>
    intro l b
    simp
  | cons a rest ih =>
    intro l b
    rw [List.foldl_cons, ih, mem_insertNew, List.mem_cons, or_assoc]

theorem nodup_insertNew {l : List α} (h : l.Nodup) (a : α) : (insertNew l a).Nodup := by
  rw [insertNew]
  split
  · exact h
  · rename_i hmem
    exact List.nodup_append.mpr ⟨h, List.nodup_singleton a, by
      intro x hx y hy hxy
      rw [List.mem_singleton] at hy
      exact hmem (hy ▸ hxy ▸ hx)⟩

theorem nodup_foldl_insertNew (news : List α) :
    ∀ {l : List α}, l.Nodup → (news.foldl insertNew l).Nodup := by
  induction news with
  | nil => exact id
  | cons a rest ih =>
    intro l h
    exact ih (nodup_insertNew h a)

theorem length_foldl_insertNew_le (news : List α) :
    ∀ l : List α, (news.foldl insertNew l).length ≤ l.length + news.length := by
  induction news with
  | nil =>
    intro l
    exact Nat.le_refl _
  | cons a rest ih =>
    intro l
    have hfirst := length_insertNew_le l a
    have hrest := ih (insertNew l a)
    rw [List.foldl_cons, List.length_cons]
    omega

theorem foldl_insertNew_of_nodup (news : List α) :
    ∀ {l : List α}, (l ++ news).Nodup → news.foldl insertNew l = l ++ news := by
  induction news with
  | nil =>
    intro l _
    rw [List.foldl_nil, List.append_nil]
  | cons a rest ih =>
    intro l h
    have hnot : a ∉ l := by
      intro hmem
      exact (List.nodup_append.mp h).2.2 a hmem a List.mem_cons_self rfl
    have hshift : l ++ a :: rest = (l ++ [a]) ++ rest := by simp
    rw [List.foldl_cons, insertNew, if_neg hnot, hshift]
    apply ih
    rw [← hshift]
    exact h

theorem foldl_insertNew_eq_self_iff (news : List α) :
    news.foldl insertNew [] = news ↔ news.Nodup := by
  constructor
  · intro h
    rw [← h]
    exact nodup_foldl_insertNew news List.nodup_nil
  · intro h
    exact foldl_insertNew_of_nodup news (by rwa [List.nil_append])

/-! ## Adding up to a limit -/

/-- Add an element unless it is there or the sequence is full. -/
def insertBounded (capacity : Nat) (l : List α) (a : α) : List α :=
  if a ∈ l ∨ capacity ≤ l.length then l else l ++ [a]

variable {capacity : Nat}

theorem insertBounded_cases (capacity : Nat) (l : List α) (a : α) :
    insertBounded capacity l a = l
      ∨ a ∉ l ∧ l.length < capacity ∧ insertBounded capacity l a = l ++ [a] := by
  rw [insertBounded]
  split
  · exact .inl rfl
  · rename_i hroom
    rw [not_or, Nat.not_le] at hroom
    exact .inr ⟨hroom.1, hroom.2, rfl⟩

theorem subset_foldl_insertBounded (news : List α) :
    ∀ l : List α, l ⊆ news.foldl (insertBounded capacity) l := by
  induction news with
  | nil =>
    intro l
    exact List.Subset.refl l
  | cons a rest ih =>
    intro l
    refine List.Subset.trans ?_ (ih (insertBounded capacity l a))
    rcases insertBounded_cases capacity l a with heq | ⟨-, -, heq⟩
    · rw [heq]
      exact List.Subset.refl l
    · rw [heq]
      exact List.subset_append_left l [a]

theorem foldl_insertBounded_subset (news : List α) :
    ∀ l : List α, news.foldl (insertBounded capacity) l ⊆ l ++ news := by
  induction news with
  | nil =>
    intro l
    rw [List.append_nil]
    exact List.Subset.refl l
  | cons a rest ih =>
    intro l b hb
    have hmem := ih (insertBounded capacity l a) hb
    rcases insertBounded_cases capacity l a with heq | ⟨-, -, heq⟩
    · rw [heq, List.mem_append] at hmem
      rw [List.mem_append]
      exact hmem.imp_right (List.mem_cons_of_mem a)
    · rwa [heq, List.append_assoc] at hmem

theorem nodup_foldl_insertBounded (news : List α) :
    ∀ {l : List α}, l.Nodup → (news.foldl (insertBounded capacity) l).Nodup := by
  induction news with
  | nil => exact id
  | cons a rest ih =>
    intro l h
    apply ih
    rcases insertBounded_cases capacity l a with heq | ⟨hnew, -, heq⟩
    · rwa [heq]
    · have hinsert := nodup_insertNew h a
      rwa [insertNew, if_neg hnew, ← heq] at hinsert

theorem length_foldl_insertBounded_le (news : List α) :
    ∀ {l : List α}, l.length ≤ capacity →
      (news.foldl (insertBounded capacity) l).length ≤ capacity := by
  induction news with
  | nil => exact id
  | cons a rest ih =>
    intro l h
    apply ih
    rcases insertBounded_cases capacity l a with heq | ⟨-, hroom, heq⟩
    · rwa [heq]
    · rw [heq, List.length_append]
      exact hroom

/-- A limit that is not met. Where old and new elements are all from a sequence within the limit,
all of them are added. -/
theorem foldl_insertBounded_eq {whole : List α} (hwhole : whole.length ≤ capacity)
    (news : List α) :
    ∀ {l : List α}, l.Nodup → l ⊆ whole → news ⊆ whole →
      news.foldl (insertBounded capacity) l = news.foldl insertNew l := by
  induction news with
  | nil =>
    intro l _ _ _
    rfl
  | cons a rest ih =>
    intro l hnodup hl hnews
    obtain ⟨ha, hrest⟩ := List.cons_subset.mp hnews
    have hstep : insertBounded capacity l a = insertNew l a := by
      rw [insertBounded, insertNew]
      by_cases hmem : a ∈ l
      · rw [if_pos (Or.inl hmem), if_pos hmem]
      · -- a full sequence and one more element would be longer than the whole
        have hmore : (a :: l).Nodup := List.nodup_cons.mpr ⟨hmem, hnodup⟩
        have hlength := (List.subperm_of_subset hmore (List.cons_subset.mpr ⟨ha, hl⟩)).length_le
        rw [List.length_cons] at hlength
        rw [if_neg hmem, if_neg]
        rintro (hmem' | hfull)
        · exact hmem hmem'
        · omega
    rw [List.foldl_cons, List.foldl_cons, hstep]
    apply ih (nodup_insertNew hnodup a) _ hrest
    intro b hb
    rcases mem_insertNew.mp hb with hb | rfl
    · exact hl hb
    · exact ha

end KnxStack.Lib.Growing
