import KnxStack.Lib.Bitmap
import KnxStack.Lib.Runs
import Mathlib.Data.List.Nodup

/-!
# The replay window

`ReplayWindow` (`security/replay_window.hpp`): the highest sequence number accepted so far and a
bitmap of the 64 numbers up to it. Bit `k` stands for the number that lies `k` below the highest one.

`Tracks` ties the bitmap to the numbers accepted. Both branches of `accept` keep it, the shift by
less than the width and the jump beyond it included, and `accepts_iff` reads the answer of
`wouldAccept` off it. `replay_window_exact` says this of every run.
-/

set_option autoImplicit false

namespace KnxStack.Security

open KnxStack.Lib KnxStack.Lib.Bitmap

/-- `ReplayWindow`. -/
structure ReplayWindow where
  highestSeq : UInt64 := 0
  bitmap : UInt64 := 0
  deriving DecidableEq, Repr

namespace ReplayWindow

/-- `WINDOW_SIZE`. -/
def windowSize : UInt64 := 64

/-- `wouldAccept`. -/
def wouldAccept (w : ReplayWindow) (seq : UInt64) : Bool :=
  if seq > w.highestSeq then true
  else if seq = w.highestSeq then false
  else if w.highestSeq - seq ≥ windowSize then false
  else w.bitmap &&& (1 <<< (w.highestSeq - seq)) == 0

/-- `accept`. -/
def accept (w : ReplayWindow) (seq : UInt64) : ReplayWindow :=
  if seq > w.highestSeq then
    { highestSeq := seq
      bitmap :=
        if seq - w.highestSeq < windowSize then (w.bitmap <<< (seq - w.highestSeq)) ||| 1 else 1 }
  else if w.highestSeq - seq < windowSize then
    { w with bitmap := w.bitmap ||| (1 <<< (w.highestSeq - seq)) }
  else w

/-! ## The window and the numbers accepted -/

/-- The highest of the numbers, zero if there is none. -/
def highest (numbers : List UInt64) : UInt64 :=
  numbers.foldl (fun high seq => if high < seq then seq else high) 0

theorem highest_append_singleton (numbers : List UInt64) (seq : UInt64) :
    highest (numbers ++ [seq]) = if highest numbers < seq then seq else highest numbers := by
  rw [highest, List.foldl_append]
  rfl

/-- The window stands for the numbers accepted. -/
structure Tracks (w : ReplayWindow) (numbers : List UInt64) : Prop where
  highestSeq : w.highestSeq = highest numbers
  below : ∀ x ∈ numbers, x ≤ w.highestSeq
  bits : ∀ x : UInt64, 1 ≤ x → x ≤ w.highestSeq → w.highestSeq.toNat - x.toNat < 64 →
    (bit w.bitmap (w.highestSeq.toNat - x.toNat) = true ↔ x ∈ numbers)

theorem tracks_initial : Tracks {} [] := by
  refine ⟨rfl, ?_, ?_⟩
  · intro x hx
    cases hx
  · intro x hx hle _
    have hpos := UInt64.le_iff_toNat_le.mp hx
    have hzero := UInt64.le_iff_toNat_le.mp hle
    change 1 ≤ x.toNat at hpos
    change x.toNat ≤ 0 at hzero
    omega

section Steps

variable {w : ReplayWindow} {numbers : List UInt64}

/-- What the window answers: a number is accepted if it is above the highest one, or inside the
window and new. -/
theorem Tracks.accepts_iff (h : w.Tracks numbers) {x : UInt64} (hx : 1 ≤ x) :
    w.wouldAccept x = true ↔ highest numbers < x
      ∨ (x < highest numbers ∧ (highest numbers).toNat - x.toNat ≤ 63 ∧ x ∉ numbers) := by
  rw [← h.highestSeq, wouldAccept]
  by_cases habove : x > w.highestSeq
  · rw [if_pos habove]
    exact ⟨fun _ => .inl habove, fun _ => rfl⟩
  · have hle : x ≤ w.highestSeq := UInt64.not_lt.mp habove
    rw [if_neg habove]
    by_cases hsame : x = w.highestSeq
    · rw [if_pos hsame, hsame]
      simp
    · have hlt : x < w.highestSeq := UInt64.lt_of_le_of_ne hle hsame
      have hdistance : (w.highestSeq - x).toNat = w.highestSeq.toNat - x.toNat :=
        UInt64.toNat_sub_of_le _ _ hle
      rw [if_neg hsame]
      by_cases hwide : w.highestSeq - x ≥ windowSize
      · have hwide' := UInt64.le_iff_toNat_le.mp hwide
        rw [hdistance] at hwide'
        change 64 ≤ _ at hwide'
        rw [if_pos hwide]
        refine ⟨fun hfalse => (nomatch hfalse), ?_⟩
        rintro (hhigher | ⟨-, hnear, -⟩)
        · exact absurd hhigher habove
        · omega
      · have hnear : w.highestSeq - x < 64 := UInt64.not_le.mp hwide
        have hnear' := UInt64.lt_iff_toNat_lt.mp hnear
        rw [hdistance] at hnear'
        change _ < 64 at hnear'
        -- inside the window the bit of the number decides
        rw [if_neg hwide, beq_iff_eq, and_one_shiftLeft_eq_zero_iff _ hnear, hdistance,
          ← Bool.not_eq_true, h.bits x hx hle hnear']
        constructor
        · intro hnew
          exact .inr ⟨hlt, by omega, hnew⟩
        · rintro (hhigher | ⟨-, -, hnew⟩)
          · exact absurd hhigher habove
          · exact hnew

theorem Tracks.advance (h : w.Tracks numbers) {seq : UInt64} (habove : seq > w.highestSeq) :
    (w.accept seq).Tracks (numbers ++ [seq]) := by
  have habove' : w.highestSeq.toNat < seq.toNat := UInt64.lt_iff_toNat_lt.mp habove
  have hdistance : (seq - w.highestSeq).toNat = seq.toNat - w.highestSeq.toNat :=
    UInt64.toNat_sub_of_le _ _ (UInt64.le_of_lt habove)
  rw [accept, if_pos habove]
  refine ⟨?_, ?_, ?_⟩
  · rw [highest_append_singleton, ← h.highestSeq]
    exact (if_pos habove).symm
  · intro x hx
    rcases List.mem_append.mp hx with hold | hnew
    · exact UInt64.le_trans (h.below x hold) (UInt64.le_of_lt habove)
    · rw [List.mem_singleton.mp hnew]
      exact UInt64.le_refl seq
  · intro x hx hle hinside
    dsimp only at hle hinside ⊢
    have hle' := UInt64.le_iff_toNat_le.mp hle
    have hnew : decide (seq.toNat - x.toNat = 0) = true ↔ x = seq := by
      rw [decide_eq_true_eq, ← UInt64.toNat_inj]
      omega
    rw [List.mem_append, List.mem_singleton]
    by_cases hold : x ≤ w.highestSeq
    · -- a number of the old window keeps its bit, shifted, or has left the window
      have hold' := UInt64.le_iff_toNat_le.mp hold
      have hother : x ≠ seq := by
        rintro rfl
        exact absurd habove (UInt64.not_lt.mpr hold)
      have hshort : seq - w.highestSeq < 64 := by
        rw [UInt64.lt_iff_toNat_lt, hdistance]
        change _ < 64
        omega
      have hplace : seq.toNat - x.toNat - (seq - w.highestSeq).toNat
          = w.highestSeq.toNat - x.toNat := by
        rw [hdistance]
        omega
      have hshifted : (seq - w.highestSeq).toNat ≤ seq.toNat - x.toNat := by
        rw [hdistance]
        omega
      rw [if_pos (show seq - w.highestSeq < windowSize from hshort), bit_or, bit_one,
        bit_shiftLeft _ hshort hinside, hplace, decide_eq_true hshifted, Bool.true_and,
        Bool.or_eq_true, hnew, h.bits x hx hold (by omega)]
    · -- above the old window only the new number is set
      have hold' : w.highestSeq.toNat < x.toNat := UInt64.lt_iff_toNat_lt.mp (UInt64.not_le.mp hold)
      have hunseen : x ∉ numbers := fun hmem => hold (h.below x hmem)
      by_cases hshort : seq - w.highestSeq < windowSize
      · have hunshifted : ¬ (seq - w.highestSeq).toNat ≤ seq.toNat - x.toNat := by
          rw [hdistance]
          omega
        rw [if_pos hshort, bit_or, bit_one, bit_shiftLeft _ hshort hinside,
          decide_eq_false hunshifted, Bool.false_and, Bool.false_or, hnew]
        simp [hunseen]
      · rw [if_neg hshort, bit_one, hnew]
        simp [hunseen]

theorem Tracks.mark (h : w.Tracks numbers) {seq : UInt64} (hle : seq ≤ w.highestSeq)
    (hnear : w.highestSeq.toNat - seq.toNat < 64) : (w.accept seq).Tracks (numbers ++ [seq]) := by
  have hdistance : (w.highestSeq - seq).toNat = w.highestSeq.toNat - seq.toNat :=
    UInt64.toNat_sub_of_le _ _ hle
  have hshort : w.highestSeq - seq < 64 := by
    rw [UInt64.lt_iff_toNat_lt, hdistance]
    exact hnear
  rw [accept, if_neg (UInt64.not_lt.mpr hle),
    if_pos (show w.highestSeq - seq < windowSize from hshort)]
  refine ⟨?_, ?_, ?_⟩
  · rw [highest_append_singleton, ← h.highestSeq]
    exact (if_neg (UInt64.not_lt.mpr hle)).symm
  · intro x hx
    rcases List.mem_append.mp hx with hold | hnew
    · exact h.below x hold
    · rw [List.mem_singleton.mp hnew]
      exact hle
  · intro x hx hxle hinside
    dsimp only at hxle hinside ⊢
    have hxle' := UInt64.le_iff_toNat_le.mp hxle
    have hle' := UInt64.le_iff_toNat_le.mp hle
    have hsame : decide (w.highestSeq.toNat - x.toNat = (w.highestSeq - seq).toNat) = true
        ↔ x = seq := by
      rw [decide_eq_true_eq, hdistance, ← UInt64.toNat_inj]
      omega
    rw [bit_or, bit_one_shiftLeft hshort hinside, Bool.or_eq_true, hsame, h.bits x hx hxle hinside,
      List.mem_append, List.mem_singleton]

/-- A number is offered to `accept` only after `wouldAccept` said yes. -/
def Offered (w : ReplayWindow) (seq : UInt64) : Prop := 1 ≤ seq ∧ w.wouldAccept seq = true

theorem Tracks.accept (h : w.Tracks numbers) {seq : UInt64} (hoffered : w.Offered seq) :
    (w.accept seq).Tracks (numbers ++ [seq]) ∧ seq ∉ numbers := by
  obtain ⟨hpos, hyes⟩ := hoffered
  rcases (h.accepts_iff hpos).mp hyes with hhigher | ⟨hlower, hnear, hnew⟩
  · rw [← h.highestSeq] at hhigher
    refine ⟨h.advance hhigher, ?_⟩
    intro hmem
    exact absurd hhigher (UInt64.not_lt.mpr (h.below seq hmem))
  · rw [← h.highestSeq] at hlower hnear
    exact ⟨h.mark (UInt64.le_of_lt hlower) (by omega), hnew⟩

end Steps

theorem Tracks.run {w : ReplayWindow} {earlier : List UInt64} (h : w.Tracks earlier)
    (hnodup : earlier.Nodup) {numbers : List UInt64}
    (hoffered : Along ReplayWindow.accept Offered w numbers) :
    (Lib.run ReplayWindow.accept w numbers).Tracks (earlier ++ numbers)
      ∧ (earlier ++ numbers).Nodup := by
  induction numbers generalizing w earlier with
  | nil =>
    rw [List.append_nil]
    exact ⟨h, hnodup⟩
  | cons seq numbers ih =>
    obtain ⟨hnext, hnew⟩ := h.accept hoffered.1
    have hnodup' : (earlier ++ [seq]).Nodup := by
      rw [List.nodup_append]
      refine ⟨hnodup, List.nodup_singleton seq, ?_⟩
      intro x hx y hy hsame
      rw [hsame, List.mem_singleton.mp hy] at hx
      exact hnew hx
    have hrest := ih hnext hnodup' hoffered.2
    rwa [List.append_assoc, List.singleton_append] at hrest

/-- The window is exact along every run of accepted numbers: a number is accepted exactly when it
is above the highest one, or at most 63 below it and new; and none is accepted twice. -/
theorem replay_window_exact {numbers : List UInt64}
    (hoffered : Along accept Offered {} numbers) :
    (∀ x : UInt64, 1 ≤ x →
      ((run accept {} numbers).wouldAccept x = true ↔ highest numbers < x
        ∨ (x < highest numbers ∧ (highest numbers).toNat - x.toNat ≤ 63 ∧ x ∉ numbers)))
    ∧ numbers.Nodup := by
  obtain ⟨htracks, hnodup⟩ := tracks_initial.run List.nodup_nil hoffered
  exact ⟨fun x hx => htracks.accepts_iff hx, hnodup⟩

/-- Numbers that arrive out of order, with a jump of the whole window. -/
theorem replay_window_exact_jump :
    Along accept Offered {} [1, 3, 2, 67, 66, 4]
    ∧ (run accept {} [1, 3, 2, 67, 66, 4]).wouldAccept 5 = true := by
  have hoffered : Along accept Offered {} [1, 3, 2, 67, 66, 4] := by
    simp only [along_cons, along_nil, Offered, and_true]
    decide
  refine ⟨hoffered, ((replay_window_exact hoffered).1 5 (by decide)).mpr (.inr ?_)⟩
  decide

end ReplayWindow

end KnxStack.Security
