import Mathlib.Data.List.Basic
import Mathlib.Data.Nat.ModEq

/-!
# Rings that drop their oldest entry

A ring buffer: slots, the place of the oldest entry and the number of entries. `contents` is the list that
it stands for, oldest first.

- `contents_pushBack`, `contents_dropFront`, `front_eq`: what the operations do to that list.
- `Watched`: a queue beside everything that came in and everything that went out again, by being handed
  over or by giving way. `Watched.Balanced` says that nothing else happened to an entry.
-/

set_option autoImplicit false

namespace KnxStack.Lib

universe u

variable {α : Type u} {capacity : Nat}

/-- Entries in slots that are numbered modulo the capacity. -/
structure Ring (α : Type u) (capacity : Nat) where
  slots : Fin capacity → α
  head : Fin capacity
  count : Nat
  bounded : count ≤ capacity

namespace Ring

/-- The slot of the `i`-th entry. -/
def place (r : Ring α capacity) (i : Nat) : Fin capacity :=
  ⟨(r.head.val + i) % capacity, Nat.mod_lt _ (Nat.zero_lt_of_lt r.head.isLt)⟩

/-- The entries, oldest first. -/
def contents (r : Ring α capacity) : List α :=
  (List.range r.count).map fun i => r.slots (r.place i)

/-- The oldest entry. -/
def front (r : Ring α capacity) : Option α := if r.count = 0 then none else some (r.slots r.head)

/-- Without the oldest entry. -/
def dropFront (r : Ring α capacity) : Ring α capacity where
  slots := r.slots
  head := r.place 1
  count := r.count - 1
  bounded := Nat.le_trans (Nat.sub_le _ _) r.bounded

/-- With an entry at the end, where there is room. -/
def pushBack (r : Ring α capacity) (h : r.count < capacity) (a : α) : Ring α capacity where
  slots := Function.update r.slots (r.place r.count) a
  head := r.head
  count := r.count + 1
  bounded := h

@[simp] theorem length_contents (r : Ring α capacity) : r.contents.length = r.count := by
  simp [contents]

theorem place_zero (r : Ring α capacity) : r.place 0 = r.head := by
  apply Fin.ext
  simp [place, Nat.mod_eq_of_lt r.head.isLt]

theorem place_ne {r : Ring α capacity} {i j : Nat} (hi : i < capacity) (hj : j < capacity)
    (hne : i ≠ j) : r.place i ≠ r.place j := by
  intro hsame
  have hmod : r.head.val + i ≡ r.head.val + j [MOD capacity] := congrArg Fin.val hsame
  have hcancel : i % capacity = j % capacity := Nat.ModEq.add_left_cancel' _ hmod
  rw [Nat.mod_eq_of_lt hi, Nat.mod_eq_of_lt hj] at hcancel
  exact hne hcancel

theorem place_dropFront (r : Ring α capacity) (i : Nat) :
    r.dropFront.place i = r.place (i + 1) := by
  apply Fin.ext
  simp only [place, dropFront, Nat.mod_add_mod]
  congr 1
  omega

theorem contents_dropFront (r : Ring α capacity) : r.dropFront.contents = r.contents.tail := by
  unfold contents
  cases hcount : r.count with
  | zero =>
    have hnone : r.dropFront.count = 0 := by simp [dropFront, hcount]
    rw [hnone]
    rfl
  | succ count =>
    have hless : r.dropFront.count = count := by simp [dropFront, hcount]
    rw [hless, List.range_succ_eq_map, List.map_cons, List.tail_cons, List.map_map]
    apply List.map_congr_left
    intro i _
    exact congrArg r.slots (place_dropFront r i)

theorem contents_pushBack (r : Ring α capacity) (h : r.count < capacity) (a : α) :
    (r.pushBack h a).contents = r.contents ++ [a] := by
  have hplace : ∀ i, (r.pushBack h a).place i = r.place i := fun _ => rfl
  have hcount : (r.pushBack h a).count = r.count + 1 := rfl
  unfold contents
  rw [hcount, List.range_succ, List.map_append, List.map_singleton]
  congr 1
  · apply List.map_congr_left
    intro i hi
    have hlt : i < r.count := List.mem_range.mp hi
    rw [hplace]
    exact Function.update_of_ne (place_ne (by omega) h (by omega)) _ _
  · rw [hplace]
    exact congrArg (fun x => [x]) (Function.update_self _ _ _)

theorem front_eq (r : Ring α capacity) : r.front = r.contents.head? := by
  unfold front contents
  cases hcount : r.count with
  | zero => rfl
  | succ count =>
    rw [if_neg (Nat.succ_ne_zero count), List.range_succ_eq_map, List.map_cons, List.head?_cons,
      place_zero]

end Ring

/-! ## Everything that came in -/

/-- A queue, with what came in so far and what went out: handed over (`true`) or given way. -/
structure Watched (α : Type u) where
  waiting : List α
  arrived : List α
  gone : List (Bool × α)

namespace Watched

/-- An empty queue that nothing has come into. -/
def empty : Watched α := ⟨[], [], []⟩

/-- The oldest entry goes. -/
def leave (q : Watched α) (handed : Bool) : Watched α :=
  { q with waiting := q.waiting.tail, gone := q.gone ++ (q.waiting.head?.toList.map (handed, ·)) }

/-- An entry arrives. Only if as many as the capacity wait, the oldest one gives way. -/
def arrive (capacity : Nat) (q : Watched α) (a : α) : Watched α :=
  let room := if capacity ≤ q.waiting.length then q.leave false else q
  { room with waiting := room.waiting ++ [a], arrived := room.arrived ++ [a] }

/-- What was handed over, in its order. -/
def handed (q : Watched α) : List α := (q.gone.filter Prod.fst).map Prod.snd

/-- What came in is what went out and what waits, in this order. -/
def Balanced (q : Watched α) : Prop := q.arrived = q.gone.map Prod.snd ++ q.waiting

theorem balanced_empty : (empty : Watched α).Balanced := rfl

theorem Balanced.leave {q : Watched α} (h : q.Balanced) (handed : Bool) :
    (q.leave handed).Balanced := by
  unfold Balanced at h ⊢
  rw [show (q.leave handed).arrived = q.arrived from rfl, h]
  unfold Watched.leave
  cases q.waiting with
  | nil => simp
  | cons a rest => simp

theorem Balanced.arrive {q : Watched α} (h : q.Balanced) (capacity : Nat) (a : α) :
    (q.arrive capacity a).Balanced := by
  have happend : ∀ room : Watched α, room.Balanced →
      Balanced { room with waiting := room.waiting ++ [a], arrived := room.arrived ++ [a] } := by
    intro room hroom
    unfold Balanced at hroom ⊢
    simp only [hroom, List.append_assoc]
  unfold Watched.arrive
  dsimp only
  split
  · exact happend _ (h.leave false)
  · exact happend _ h

theorem handed_arrive (capacity : Nat) (q : Watched α) (a : α) :
    (q.arrive capacity a).handed = q.handed := by
  unfold Watched.arrive handed
  dsimp only
  split
  · unfold Watched.leave
    cases q.waiting <;> simp
  · rfl

theorem handed_leave {q : Watched α} {a : α} (h : q.waiting.head? = some a) :
    (q.leave true).handed = q.handed ++ [a] := by
  simp [Watched.leave, handed, h]

end Watched

end KnxStack.Lib
