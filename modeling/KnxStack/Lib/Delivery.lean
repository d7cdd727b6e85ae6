import Mathlib.Data.List.Basic

/-!
# Delivery in order

What a sender has sent is a list; what a receiver was given is a list of values, each with the position
at which it was sent. `InOrder` says that no position comes twice and that none comes after a later
one.

- `InOrder.sublist`: then the values are a subsequence of those that were sent.
- `InOrder.send`: it goes on when more is sent.
- `inOrder_deliver_iff`: it goes on with one more value exactly if the value is later than all before.
-/

set_option autoImplicit false

namespace KnxStack.Lib

universe u

variable {α : Type u}

/-- The values come from their positions, and the positions go up. -/
structure InOrder (sent : List α) (delivered : List (Nat × α)) : Prop where
  genuine : ∀ entry ∈ delivered, sent[entry.1]? = some entry.2
  once : delivered.Pairwise fun first second => first.1 < second.1

theorem inOrder_nil (sent : List α) : InOrder sent [] :=
  ⟨fun _ hentry => absurd hentry List.not_mem_nil, List.Pairwise.nil⟩

/-- Positions from `start` on give a subsequence of what was sent from there on. -/
theorem InOrder.sublist_drop {sent : List α} {delivered : List (Nat × α)} :
    InOrder sent delivered → ∀ start : Nat, (∀ entry ∈ delivered, start ≤ entry.1) →
      (delivered.map Prod.snd).Sublist (sent.drop start) := by
  induction delivered with
  | nil =>
    intro _ start _
    exact List.nil_sublist _
  | cons entry delivered ih =>
    intro h start hstart
    obtain ⟨position, value⟩ := entry
    have hhere : sent[position]? = some value := h.genuine _ List.mem_cons_self
    obtain ⟨hbound, hvalue⟩ := List.getElem?_eq_some_iff.mp hhere
    obtain ⟨hlater, honce⟩ := List.pairwise_cons.mp h.once
    have hrest : InOrder sent delivered :=
      ⟨fun other hother => h.genuine other (List.mem_cons_of_mem _ hother), honce⟩
    -- the rest comes from after this position, and this position is not before the start
    have htail : (delivered.map Prod.snd).Sublist (sent.drop (position + 1)) :=
      ih hrest (position + 1) fun other hother => hlater other hother
    have hcons : sent.drop position = value :: sent.drop (position + 1) := by
      rw [List.drop_eq_getElem_cons hbound, hvalue]
    have hall : ((position, value) :: delivered).map Prod.snd
        = value :: delivered.map Prod.snd := rfl
    rw [hall]
    apply List.Sublist.trans (htail.cons_cons value)
    rw [← hcons]
    exact List.drop_sublist_drop_left sent (hstart _ List.mem_cons_self)

theorem InOrder.sublist {sent : List α} {delivered : List (Nat × α)} (h : InOrder sent delivered) :
    (delivered.map Prod.snd).Sublist sent :=
  h.sublist_drop 0 fun _ _ => Nat.zero_le _

theorem InOrder.send {sent : List α} {delivered : List (Nat × α)} (h : InOrder sent delivered)
    (more : List α) : InOrder (sent ++ more) delivered := by
  refine ⟨?_, h.once⟩
  intro entry hentry
  have hbefore := h.genuine entry hentry
  rw [List.getElem?_append_left (List.getElem?_eq_some_iff.mp hbefore).1]
  exact hbefore

theorem inOrder_deliver_iff {sent : List α} {delivered : List (Nat × α)} (h : InOrder sent delivered)
    {position : Nat} {value : α} (hvalue : sent[position]? = some value) :
    InOrder sent (delivered ++ [(position, value)]) ↔ ∀ entry ∈ delivered, entry.1 < position := by
  constructor
  · intro hafter entry hentry
    exact (List.pairwise_append.mp hafter.once).2.2 entry hentry _ List.mem_cons_self
  · intro hlater
    refine ⟨?_, ?_⟩
    · intro entry hentry
      rcases List.mem_append.mp hentry with hold | hnew
      · exact h.genuine entry hold
      · rw [List.mem_singleton.mp hnew]
        exact hvalue
    · refine List.pairwise_append.mpr ⟨h.once, List.pairwise_singleton _ _, ?_⟩
      intro entry hentry other hother
      rw [List.mem_singleton.mp hother]
      exact hlater entry hentry

end KnxStack.Lib
