import Mathlib.Data.List.Basic
import Mathlib.Data.List.Count
import Mathlib.Data.Nat.Init

/-!
# Counting in windows that open on demand

Events are counted in windows. A window opens no sooner than its length after the one before it, and
takes at most `limit` events. The windows are not aligned with any interval that one counts in, and
one can open at any time that is late enough.

`Windowed` is kept from event to event (`Windowed.push`) and from window to window (`Windowed.turn`);
`Windowed.within_le`: an interval as long as a window has at most twice the limit.
-/

set_option autoImplicit false

namespace KnxStack.Lib

/-- The number of events in the half-open interval of the given length from `a` on. -/
def within (a length : Nat) (times : List Nat) : Nat :=
  times.countP fun t => a ≤ t ∧ t < a + length

theorem within_append (a length : Nat) (times times' : List Nat) :
    within a length (times ++ times') = within a length times + within a length times' :=
  List.countP_append

theorem within_eq_zero {a length : Nat} {times : List Nat} (h : ∀ t ∈ times, a + length ≤ t) :
    within a length times = 0 := by
  apply List.countP_eq_zero.mpr
  intro t ht
  have hlate := h t ht
  simp only [decide_eq_true_eq]
  omega

/-- The events of the current window, opened at `opened`, and those before it. -/
structure Windowed (limit length opened : Nat) (earlier current : List Nat) : Prop where
  before : ∀ t ∈ earlier, t ≤ opened
  after : ∀ t ∈ current, opened ≤ t
  limited : current.length ≤ limit
  recent : earlier.countP (fun t => opened < t + length) ≤ limit
  dense : ∀ a, within a length earlier ≤ 2 * limit

namespace Windowed

variable {limit length opened : Nat} {earlier current : List Nat}

theorem first (limit length opened : Nat) : Windowed limit length opened [] [] where
  before := fun _ h => nomatch h
  after := fun _ h => nomatch h
  limited := Nat.zero_le _
  recent := Nat.zero_le _
  dense := fun _ => Nat.zero_le _

theorem within_le (h : Windowed limit length opened earlier current) (a : Nat) :
    within a length (earlier ++ current) ≤ 2 * limit := by
  rw [within_append]
  by_cases hbefore : a + length ≤ opened
  · have hnone : within a length current = 0 :=
      within_eq_zero fun t ht => Nat.le_trans hbefore (h.after t ht)
    rw [hnone]
    exact h.dense a
  · have hrecent : within a length earlier ≤ limit := by
      refine Nat.le_trans ?_ h.recent
      apply List.countP_mono_left
      intro t _ ht
      simp only [decide_eq_true_eq] at ht ⊢
      omega
    have hcurrent : within a length current ≤ limit :=
      Nat.le_trans List.countP_le_length h.limited
    omega

theorem push (h : Windowed limit length opened earlier current) {t : Nat} (ht : opened ≤ t)
    (hroom : current.length < limit) : Windowed limit length opened earlier (current ++ [t]) where
  before := h.before
  after := by
    intro t' ht'
    rcases List.mem_append.mp ht' with hold | hnew
    · exact h.after t' hold
    · rw [List.mem_singleton.mp hnew]
      exact ht
  limited := by
    rw [List.length_append]
    exact hroom
  recent := h.recent
  dense := h.dense

theorem turn (h : Windowed limit length opened earlier current) {t : Nat}
    (hlength : opened + length ≤ t) (hlast : ∀ t' ∈ current, t' ≤ t) :
    Windowed limit length t (earlier ++ current) [] where
  before := by
    intro t' ht'
    rcases List.mem_append.mp ht' with hold | hnew
    · have hle := h.before t' hold
      omega
    · exact hlast t' hnew
  after := fun _ h => nomatch h
  limited := Nat.zero_le _
  recent := by
    -- what lies before the window that closes is out of reach of the new one
    have hnone : earlier.countP (fun t' => t < t' + length) = 0 := by
      apply List.countP_eq_zero.mpr
      intro t' ht'
      have hle := h.before t' ht'
      simp only [decide_eq_true_eq]
      omega
    rw [List.countP_append, hnone, Nat.zero_add]
    exact Nat.le_trans List.countP_le_length h.limited
  dense := h.within_le

end Windowed

end KnxStack.Lib
