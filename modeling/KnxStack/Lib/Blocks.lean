import Mathlib.Data.List.Basic

/-!
# Blocks of equal length

Lists that are put together from blocks of one length, as the records of a file are: the length of
the whole, and where the elements of a block stand in it. `blocks` cuts a list into its full blocks,
`rest` is what is left behind them, and the lemmas after them say what one more element does to both.
-/

set_option autoImplicit false

namespace KnxStack.Lib.Blocks

universe u v

variable {α : Type u} {β : Type v} {f : α → List β} {n : Nat}

theorem length_flatMap (hf : ∀ a, (f a).length = n) (l : List α) :
    (l.flatMap f).length = l.length * n := by
  induction l with
  | nil => simp
  | cons a l ih =>
    rw [List.flatMap_cons, List.length_append, hf, ih, List.length_cons, Nat.succ_mul, Nat.add_comm]

/-- Element `k` of block `i`. -/
theorem getElem?_flatMap (hf : ∀ a, (f a).length = n) (l : List α) (i : Nat) {k : Nat}
    (hk : k < n) : (l.flatMap f)[n * i + k]? = l[i]?.bind fun a => (f a)[k]? := by
  induction l generalizing i with
  | nil => simp
  | cons a l ih =>
    rw [List.flatMap_cons]
    cases i with
    | zero =>
      rw [Nat.mul_zero, Nat.zero_add, List.getElem?_append_left (by rw [hf]; exact hk)]
      rfl
    | succ i =>
      have hplace : n * (i + 1) + k = n + (n * i + k) := by
        rw [Nat.mul_succ]
        omega
      rw [hplace, List.getElem?_append_right (by rw [hf]; omega), hf, Nat.add_sub_cancel_left, ih]
      rfl

/-- An element written behind the first `i`. -/
theorem take_set_succ {l : List α} {i : Nat} (hi : i < l.length) (a : α) :
    (l.set i a).take (i + 1) = l.take i ++ [a] := by
  rw [List.take_succ_eq_append_getElem (by rw [List.length_set]; exact hi), List.getElem_set_self,
    List.take_set_of_le (Nat.le_refl i)]

/-! ## Cutting a list -/

/-- The full blocks of a list, from its front on. -/
def blocks (n : Nat) (l : List α) : List (List α) :=
  (List.range (l.length / n)).map fun k => (l.drop (n * k)).take n

/-- What is left behind the full blocks. -/
def rest (n : Nat) (l : List α) : List α := l.drop (n * (l.length / n))

/-- The first `k` blocks are the same whatever comes behind them. -/
theorem take_blocks_append {l : List α} (more : List α) {k : Nat} (hk : k < l.length / n) :
    ((l ++ more).drop (n * k)).take n = (l.drop (n * k)).take n := by
  have hroom : n * k + n ≤ l.length := by
    calc n * k + n = n * (k + 1) := (Nat.mul_succ n k).symm
      _ ≤ n * (l.length / n) := Nat.mul_le_mul_left n hk
      _ ≤ l.length := Nat.mul_div_le l.length n
  rw [List.drop_append_of_le_length (by omega),
    List.take_append_of_le_length (by rw [List.length_drop]; omega)]

theorem blocks_append_singleton_of_lt {l : List α} (a : α) (h : l.length % n + 1 < n) :
    blocks n (l ++ [a]) = blocks n l ∧ rest n (l ++ [a]) = rest n l ++ [a] := by
  have hdiv := Nat.div_add_mod l.length n
  have hsame : (l ++ [a]).length / n = l.length / n := by
    rw [List.length_append, List.length_singleton]
    apply Nat.div_eq_of_lt_le
    · rw [Nat.mul_comm]
      omega
    · rw [Nat.succ_mul, Nat.mul_comm]
      omega
  constructor
  · rw [blocks, blocks, hsame]
    apply List.map_congr_left
    intro k hk
    exact take_blocks_append [a] (List.mem_range.mp hk)
  · rw [rest, rest, hsame, List.drop_append_of_le_length (by omega)]

theorem blocks_append_of_eq (hn : 0 < n) {l more : List α} (h : l.length % n + more.length = n) :
    blocks n (l ++ more) = blocks n l ++ [rest n l ++ more] ∧ rest n (l ++ more) = [] := by
  have hdiv := Nat.div_add_mod l.length n
  have hlength : (l ++ more).length = n * (l.length / n + 1) := by
    rw [List.length_append, Nat.mul_succ]
    omega
  have hnext : (l ++ more).length / n = l.length / n + 1 := by
    rw [hlength, Nat.mul_div_cancel_left _ hn]
  constructor
  · rw [blocks, blocks, hnext, List.range_succ, List.map_append, List.map_singleton]
    congr 1
    · apply List.map_congr_left
      intro k hk
      exact take_blocks_append more (List.mem_range.mp hk)
    · rw [List.drop_append_of_le_length (by omega), List.take_of_length_le, rest]
      rw [List.length_append, List.length_drop]
      omega
  · rw [rest, hnext, ← hlength, List.drop_length]

theorem blocks_append (hn : 0 < n) {block : List α} (hblock : block.length = n) (l : List α) :
    blocks n (block ++ l) = block :: blocks n l ∧ rest n (block ++ l) = rest n l := by
  have hnext : (block ++ l).length / n = l.length / n + 1 := by
    rw [List.length_append, hblock, Nat.add_comm, Nat.add_div_right _ hn]
  constructor
  · rw [blocks, blocks, hnext, List.range_succ_eq_map, List.map_cons, List.map_map]
    congr 1
    · rw [Nat.mul_zero, List.drop_zero, ← hblock, List.take_left]
    · apply List.map_congr_left
      intro k _
      rw [Function.comp_apply, Nat.mul_succ, Nat.add_comm, ← List.drop_drop, ← hblock,
        List.drop_left]
  · rw [rest, rest, hnext, Nat.mul_succ, Nat.add_comm, ← List.drop_drop, ← hblock, List.drop_left]

theorem blocks_of_length_lt {l : List α} (h : l.length < n) : blocks n l = [] ∧ rest n l = l := by
  rw [blocks, rest, Nat.div_eq_of_lt h]
  simp

end KnxStack.Lib.Blocks
