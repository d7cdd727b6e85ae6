import Mathlib.Data.List.Basic

/-!
# Reads with a bounds check on every index

`Checked ε α` is the result of a computation that reads a buffer by index: a value, a reported
error, or `outOfBounds i` when the computation evaluated an index `i` that the buffer does not
have. A program that cannot reach `outOfBounds` reads only inside its input.

The computation stops at the first read outside the buffer, so `outOfBounds` is the only trace of
such a read and no later check can hide it.
-/

set_option autoImplicit false

namespace KnxStack.Lib

universe u v

/-- Outcome of an index-checked computation. -/
inductive Checked (ε : Type u) (α : Type v) where
  | done (value : α)
  | fail (error : ε)
  | outOfBounds (index : Nat)
  deriving DecidableEq, Repr

namespace Checked

variable {ε : Type u} {α β : Type v}

/-- Sequencing: the first error or stray read ends the computation. -/
def bind (x : Checked ε α) (k : α → Checked ε β) : Checked ε β :=
  match x with
  | done a => k a
  | fail e => fail e
  | outOfBounds i => outOfBounds i

instance : Monad (Checked ε) where
  pure := done
  bind := bind

@[simp] theorem pure_eq (a : α) : (pure a : Checked ε α) = done a := rfl

@[simp] theorem done_bind (a : α) (k : α → Checked ε β) : (done a >>= k) = k a := rfl

@[simp] theorem fail_bind (e : ε) (k : α → Checked ε β) : (fail e >>= k) = fail e := rfl

@[simp] theorem outOfBounds_bind (i : Nat) (k : α → Checked ε β) :
    (outOfBounds i >>= k) = outOfBounds i := rfl

theorem bind_eq_done {x : Checked ε α} {k : α → Checked ε β} {b : β} :
    (x >>= k) = done b ↔ ∃ a, x = done a ∧ k a = done b := by
  cases x with
  | done a => simp
  | fail e => simp
  | outOfBounds i => simp

theorem guard_eq_done {p : Prop} [Decidable p] {e : ε} {x : Checked ε α} {a : α} :
    (if p then fail e else x) = done a ↔ ¬ p ∧ x = done a := by
  by_cases hp : p <;> simp [hp]

/-- The value, if there is one. -/
def toOption (x : Checked ε α) : Option α :=
  match x with
  | done a => some a
  | fail _ => none
  | outOfBounds _ => none

@[simp] theorem toOption_eq_some {x : Checked ε α} {a : α} : x.toOption = some a ↔ x = done a := by
  cases x with
  | done b => simp [toOption]
  | fail e => simp [toOption]
  | outOfBounds i => simp [toOption]

/-- The computation read only inside its buffer. -/
def InBounds (x : Checked ε α) : Prop := ∀ i, x ≠ outOfBounds i

@[simp] theorem inBounds_done (a : α) : (done a : Checked ε α).InBounds := fun _ h => by cases h

@[simp] theorem inBounds_fail (e : ε) : (fail e : Checked ε α).InBounds := fun _ h => by cases h

@[simp] theorem not_inBounds_outOfBounds (i : Nat) : ¬ (outOfBounds i : Checked ε α).InBounds :=
  fun h => h i rfl

theorem InBounds.bind {x : Checked ε α} {k : α → Checked ε β} (hx : x.InBounds)
    (hk : ∀ a, (k a).InBounds) : (x >>= k).InBounds := by
  cases x with
  | done a => exact hk a
  | fail e => exact inBounds_fail e
  | outOfBounds i => exact absurd hx (not_inBounds_outOfBounds i)

end Checked

/-- Read one element. -/
def readAt {ε : Type u} {α : Type v} (buffer : List α) (i : Nat) : Checked ε α :=
  match buffer[i]? with
  | some a => .done a
  | none => .outOfBounds i

/-- Read `len` elements from `off` on. -/
def readSpan {ε : Type u} {α : Type v} (buffer : List α) (off len : Nat) : Checked ε (List α) :=
  if off + len ≤ buffer.length then .done ((buffer.drop off).take len)
  else .outOfBounds buffer.length

variable {ε : Type u} {α : Type v}

theorem readAt_of_lt {buffer : List α} {i : Nat} (h : i < buffer.length) :
    (readAt buffer i : Checked ε α) = .done buffer[i] := by
  simp [readAt, List.getElem?_eq_getElem h]

theorem readAt_of_le {buffer : List α} {i : Nat} (h : buffer.length ≤ i) :
    (readAt buffer i : Checked ε α) = .outOfBounds i := by
  simp [readAt, List.getElem?_eq_none h]

theorem readSpan_of_le {buffer : List α} {off len : Nat} (h : off + len ≤ buffer.length) :
    (readSpan buffer off len : Checked ε (List α)) = .done ((buffer.drop off).take len) :=
  if_pos h

@[simp] theorem readAt_cons_zero (a : α) (l : List α) :
    (readAt (a :: l) 0 : Checked ε α) = .done a := rfl

end KnxStack.Lib
