import KnxStack.Bau.SecurityPersistence

/-!
# How long a save is put off

Writes mark the state as dirty, and `pumpPersistence` (`bau/bau.cpp`) saves it when no mark has come
for `kPersistQuietMs`, or when the burst of marks has lasted `kPersistMaxDeferMs`. A mark carries no
time: the pump that finds it starts both windows. That pump returns before it looks at the length of
the burst, so a pump that always finds a new mark never saves.

`Watched` is a device with what an observer of the calls knows of them, and `bounded_deferral_iff` says
which runs keep the bounds.
-/

set_option autoImplicit false

namespace KnxStack.Bau

open KnxStack.Lib KnxStack.Lib.Words

/-- `markPersistenceDirty` and `pumpPersistence`. -/
inductive PersistenceCall where
  | mark
  | pump (t : Nat)
  deriving DecidableEq, Repr

/-- A device, the first pump that found the burst of marks which is not saved yet, the first pump
after the last mark of it, and the marks since the last pump. -/
structure Watched where
  device : Device
  burstSeen : Option Nat := none
  quietSince : Option Nat := none
  marks : Nat := 0

namespace Watched

/-- The device after a pump. -/
def pumped (w : Watched) (t : Nat) : Device := w.device.pumpPersistence (UInt32.ofNat t)

/-- One call. -/
def step (w : Watched) : PersistenceCall → Watched
  | .mark =>
      { w with device := w.device.markPersistenceDirty, quietSince := none, marks := w.marks + 1 }
  | .pump t =>
      if w.device.persistenceDirty && (w.pumped t).persistenceDirty then
        { device := w.pumped t
          burstSeen := w.burstSeen.or (some t)
          quietSince := w.quietSince.or (some t) }
      else { device := w.pumped t }

/-- The times of the pumps. -/
def pumpTimes (calls : List PersistenceCall) : List Nat :=
  calls.filterMap fun
    | .mark => none
    | .pump t => some t

/-- The pumps come in order, less than one turn of the clock apart. -/
def InTime (calls : List PersistenceCall) : Prop :=
  (pumpTimes calls).Pairwise fun a b => a ≤ b ∧ b < a + 2 ^ 32

/-- The bounds: a pump leaves nothing unsaved of a burst that was found 5000 ms ago, and nothing
when no mark has come since a pump 400 ms ago. -/
def Bounded (w : Watched) : PersistenceCall → Prop
  | .mark => True
  | .pump t =>
      (∀ seen ∈ w.burstSeen, seen + 5000 ≤ t → (w.pumped t).persistenceDirty = false) ∧
        ∀ quiet ∈ w.quietSince, quiet + 400 ≤ t → (w.pumped t).persistenceDirty = false

/-- The counter of the marks has not come round. -/
def FewMarks (w : Watched) : PersistenceCall → Prop
  | .mark => True
  | .pump _ => w.marks < 2 ^ 32

/-- No new mark at a pump that comes 5000 ms after the first. -/
def Settled (w : Watched) : PersistenceCall → Prop
  | .mark => True
  | .pump t => 0 < w.marks → ∀ seen ∈ w.burstSeen, t < seen + 5000

/-! ## What the device knows -/

/-- A device with nothing to save. -/
structure Idle (d : Device) : Prop where
  clean : d.persistenceDirty = false
  inactive : d.persistenceBurstActive = false
  seen : d.persistenceSeenSeq = d.persistenceMarkSeq

/-- The device agrees with the observer. -/
structure Follows (times : List Nat) (w : Watched) : Prop where
  seq : w.device.persistenceMarkSeq = w.device.persistenceSeenSeq + UInt32.ofNat w.marks
  clean : w.device.persistenceDirty = false → w.marks = 0 ∧ w.burstSeen = none ∧ w.quietSince = none
  burst : w.device.persistenceBurstActive = w.burstSeen.isSome
  burstStart : ∀ seen ∈ w.burstSeen, seen ∈ times
    ∧ w.device.persistenceBurstStartMs = UInt32.ofNat seen
  quietStart : ∀ quiet ∈ w.quietSince, quiet ∈ times
    ∧ w.device.persistenceQuietStartMs = UInt32.ofNat quiet
  marked : 0 < w.marks → w.device.persistenceDirty = true ∧ w.quietSince = none
  found : w.device.persistenceDirty = true → w.marks = 0 →
    w.burstSeen.isSome = true ∧ w.quietSince.isSome = true

theorem follows_idle {d : Device} (h : Idle d) : Follows [] { device := d } where
  seq := by
    rw [h.seen]
    exact (UInt32.add_zero _).symm
  clean := fun _ => ⟨rfl, rfl, rfl⟩
  burst := h.inactive
  burstStart := fun _ h => nomatch h
  quietStart := fun _ h => nomatch h
  marked := fun h => absurd h (Nat.lt_irrefl 0)
  found := by
    intro hdirty
    rw [h.clean] at hdirty
    cases hdirty

section Steps

variable {times : List Nat} {w : Watched} {t : Nat}

theorem Follows.mark (h : Follows times w) : Follows times (w.step .mark) where
  seq := by
    show w.device.persistenceMarkSeq + 1 = w.device.persistenceSeenSeq + UInt32.ofNat (w.marks + 1)
    rw [h.seq, UInt32.ofNat_add, ← UInt32.add_assoc]
    rfl
  clean := fun hclean => nomatch hclean
  burst := h.burst
  burstStart := h.burstStart
  quietStart := fun _ hnone => nomatch hnone
  marked := fun _ => ⟨rfl, rfl⟩
  found := fun _ hnone => nomatch hnone

theorem Follows.seq_eq_iff (h : Follows times w) (hfew : w.marks < 2 ^ 32) :
    w.device.persistenceMarkSeq = w.device.persistenceSeenSeq ↔ w.marks = 0 := by
  rw [h.seq]
  constructor
  · intro heq
    have hnat := congrArg UInt32.toNat heq
    have hseen := w.device.persistenceSeenSeq.toNat_lt
    rw [UInt32.toNat_add, UInt32.toNat_ofNat_of_lt' hfew] at hnat
    omega
  · intro hzero
    rw [hzero]
    exact UInt32.add_zero _

theorem Follows.pumped_cases (h : Follows times w) (hfew : w.marks < 2 ^ 32)
    (hdirty : w.device.persistenceDirty = true) :
    (0 < w.marks ∧ w.pumped t = { w.device with
        persistenceSeenSeq := w.device.persistenceMarkSeq
        persistenceQuietStartMs := UInt32.ofNat t
        persistenceBurstActive := true
        persistenceBurstStartMs :=
          if w.burstSeen = none then UInt32.ofNat t else w.device.persistenceBurstStartMs }) ∨
      (w.marks = 0
        ∧ (400 ≤ UInt32.ofNat t - w.device.persistenceQuietStartMs
          ∨ 5000 ≤ UInt32.ofNat t - w.device.persistenceBurstStartMs)
        ∧ w.pumped t = w.device.saveToPersistence) ∨
      (w.marks = 0
        ∧ ¬ (400 ≤ UInt32.ofNat t - w.device.persistenceQuietStartMs
          ∨ 5000 ≤ UInt32.ofNat t - w.device.persistenceBurstStartMs)
        ∧ w.pumped t = w.device) := by
  have hseq := h.seq_eq_iff hfew
  have hburst := h.burst
  rw [pumped, Device.pumpPersistence, hdirty]
  by_cases hmarks : w.marks = 0
  · have hsame : ¬ w.device.persistenceMarkSeq ≠ w.device.persistenceSeenSeq :=
      not_not.mpr (hseq.mpr hmarks)
    right
    rw [if_neg (by simp), if_neg hsame]
    by_cases helapsed : 400 ≤ UInt32.ofNat t - w.device.persistenceQuietStartMs
        ∨ 5000 ≤ UInt32.ofNat t - w.device.persistenceBurstStartMs
    · exact .inl ⟨hmarks, helapsed, if_pos helapsed⟩
    · exact .inr ⟨hmarks, helapsed, if_neg helapsed⟩
  · -- fewer than `2 ^ 32` marks since the last look do not bring the number back to what it was
    have hnew : w.device.persistenceMarkSeq ≠ w.device.persistenceSeenSeq :=
      fun heq => hmarks (hseq.mp heq)
    left
    refine ⟨Nat.pos_of_ne_zero hmarks, ?_⟩
    rw [if_neg (by simp), if_pos hnew]
    cases hseen : w.burstSeen with
    | none =>
      rw [hseen] at hburst
      simp [hburst, hdirty]
    | some seen =>
      rw [hseen] at hburst
      simp [hburst, hdirty]

theorem pumped_of_clean (hclean : w.device.persistenceDirty = false) : w.pumped t = w.device := by
  rw [pumped, Device.pumpPersistence, hclean]
  rfl

theorem step_pump_of_dirty (hdirty : w.device.persistenceDirty = true)
    (hstill : (w.pumped t).persistenceDirty = true) :
    w.step (.pump t) = { device := w.pumped t
                         burstSeen := w.burstSeen.or (some t)
                         quietSince := w.quietSince.or (some t) } := by
  rw [step, hdirty, hstill]
  rfl

theorem step_pump_of_clean (hclean : (w.pumped t).persistenceDirty = false) :
    w.step (.pump t) = { device := w.pumped t } := by
  rw [step, hclean, Bool.and_false]
  rfl

theorem Follows.pump (h : Follows times w) (hfew : w.marks < 2 ^ 32) :
    Follows (times ++ [t]) (w.step (.pump t)) := by
  have hmem : t ∈ times ++ [t] := List.mem_append_right _ (List.mem_singleton.mpr rfl)
  cases hdirty : w.device.persistenceDirty with
  | false =>
    obtain ⟨hmarks, hseen, -⟩ := h.clean hdirty
    -- A clean device has no marks and no running windows, and the pump leaves it so.
    have hsame := pumped_of_clean (t := t) hdirty
    rw [step_pump_of_clean (by rw [hsame, hdirty]), hsame]
    have hseq := h.seq
    have hburst := h.burst
    rw [hmarks] at hseq
    rw [hseen] at hburst
    exact ⟨hseq, fun _ => ⟨rfl, rfl, rfl⟩, hburst, fun _ hnone => (nomatch hnone),
      fun _ hnone => (nomatch hnone), fun hpos => absurd hpos (Nat.lt_irrefl 0),
      fun hnot => absurd (hdirty.symm.trans hnot) Bool.false_ne_true⟩
  | true =>
    rcases h.pumped_cases (t := t) hfew hdirty with
      ⟨hpos, hpumped⟩ | ⟨hnone, -, hpumped⟩ | ⟨hnone, -, hpumped⟩
    · -- new marks: the quiet window starts again, and the burst if it is not running
      have hquiet := (h.marked hpos).2
      have hstill : (w.pumped t).persistenceDirty = true := by
        rw [hpumped]
        exact hdirty
      rw [step_pump_of_dirty hdirty hstill, hpumped, hquiet]
      refine ⟨(UInt32.add_zero _).symm, fun hclean => absurd (hdirty.symm.trans hclean) (by simp),
        ?_, ?_, ?_, fun hpos => absurd hpos (Nat.lt_irrefl 0), fun _ _ => ⟨?_, rfl⟩⟩
      · cases w.burstSeen <;> rfl
      · intro seen hmemSeen
        cases hseen : w.burstSeen with
        | none =>
          rw [hseen] at hmemSeen
          obtain rfl := Option.mem_some_iff.mp hmemSeen
          refine ⟨hmem, ?_⟩
          show (if (none : Option Nat) = none then UInt32.ofNat t else w.device.persistenceBurstStartMs)
            = UInt32.ofNat t
          exact if_pos rfl
        | some first =>
          rw [hseen] at hmemSeen
          obtain rfl := Option.mem_some_iff.mp hmemSeen
          obtain ⟨hin, hstart⟩ := h.burstStart first hseen
          refine ⟨List.mem_append_left _ hin, ?_⟩
          show (if some first = none then UInt32.ofNat t else w.device.persistenceBurstStartMs)
            = UInt32.ofNat first
          rw [if_neg (Option.some_ne_none first)]
          exact hstart
      · intro quiet hmemQuiet
        obtain rfl := Option.mem_some_iff.mp hmemQuiet
        exact ⟨hmem, rfl⟩
      · cases w.burstSeen <;> rfl
    · -- saved
      rw [step_pump_of_clean (by rw [hpumped]; rfl), hpumped]
      exact ⟨(UInt32.add_zero _).symm, fun _ => ⟨rfl, rfl, rfl⟩, rfl, fun _ hnone => (nomatch hnone),
        fun _ hnone => (nomatch hnone), fun hpos => absurd hpos (Nat.lt_irrefl 0),
        fun hnot => (nomatch hnot)⟩
    · -- nothing new, and too early
      -- The marks were found by an earlier pump, so both windows are running.
      obtain ⟨hseen, hquiet⟩ := h.found hdirty hnone
      obtain ⟨seen, hseen⟩ := Option.isSome_iff_exists.mp hseen
      obtain ⟨quiet, hquiet⟩ := Option.isSome_iff_exists.mp hquiet
      have hstill : (w.pumped t).persistenceDirty = true := by
        rw [hpumped]
        exact hdirty
      have hseq := h.seq
      rw [hnone] at hseq
      rw [step_pump_of_dirty hdirty hstill, hpumped, hseen, hquiet]
      refine ⟨hseq, fun hclean => absurd (hdirty.symm.trans hclean) (by simp), ?_, ?_, ?_,
        fun hpos => absurd hpos (Nat.lt_irrefl 0), fun _ _ => ⟨rfl, rfl⟩⟩
      · rw [h.burst, hseen]
        rfl
      · intro first hfirst
        obtain rfl := Option.mem_some_iff.mp hfirst
        obtain ⟨hin, hstart⟩ := h.burstStart seen hseen
        exact ⟨List.mem_append_left _ hin, hstart⟩
      · intro first hfirst
        obtain rfl := Option.mem_some_iff.mp hfirst
        obtain ⟨hin, hstart⟩ := h.quietStart quiet hquiet
        exact ⟨List.mem_append_left _ hin, hstart⟩

theorem Follows.bounded_iff (h : Follows times w) (hfew : w.marks < 2 ^ 32)
    (hnow : ∀ a ∈ times, a ≤ t ∧ t < a + 2 ^ 32) : Bounded w (.pump t) ↔ Settled w (.pump t) := by
  cases hdirty : w.device.persistenceDirty with
  | false =>
    -- Nothing is waiting to be saved, so nothing can be late.
    have hclean : (w.pumped t).persistenceDirty = false := by rw [pumped_of_clean hdirty, hdirty]
    obtain ⟨hmarks, -⟩ := h.clean hdirty
    refine iff_of_true ⟨fun _ _ _ => hclean, fun _ _ _ => hclean⟩ ?_
    intro hpos
    omega
  | true =>
    rcases h.pumped_cases (t := t) hfew hdirty with
      ⟨hpos, hpumped⟩ | ⟨hnone, -, hpumped⟩ | ⟨hnone, hearly, hpumped⟩
    · -- a pump that finds marks does not save
      have hstill : (w.pumped t).persistenceDirty = true := by
        rw [hpumped]
        exact hdirty
      have hquiet := (h.marked hpos).2
      rw [Bounded, Settled, hstill, hquiet]
      constructor
      · intro hbounded _ seen hseen
        by_contra hlate
        exact absurd (hbounded.1 seen hseen (by omega)) (by simp)
      · intro hsettled
        refine ⟨?_, fun _ hnone => (nomatch hnone)⟩
        intro seen hseen hlate
        have hearly := hsettled hpos seen hseen
        omega
    · -- a pump that saves is on time for both windows
      have hclean : (w.pumped t).persistenceDirty = false := by
        rw [hpumped]
        rfl
      refine iff_of_true ⟨fun _ _ _ => hclean, fun _ _ _ => hclean⟩ ?_
      intro hpos
      omega
    · -- neither window has run out on the device's clock, and so neither has in the run
      rw [not_or] at hearly
      refine iff_of_true ⟨?_, ?_⟩ (fun hpos => by omega)
      · intro seen hseen hlate
        obtain ⟨hin, hstart⟩ := h.burstStart seen hseen
        rw [hstart, le_elapsed_iff (hnow seen hin)] at hearly
        exact absurd hlate hearly.2
      · intro quiet hquiet hlate
        obtain ⟨hin, hstart⟩ := h.quietStart quiet hquiet
        rw [hstart, le_elapsed_iff (hnow quiet hin)] at hearly
        exact absurd hlate hearly.1

end Steps

/-! ## Runs -/

theorem along_bounded_iff {calls : List PersistenceCall} :
    ∀ {times : List Nat} {w : Watched}, Follows times w →
      (∀ a ∈ times, ∀ t ∈ pumpTimes calls, a ≤ t ∧ t < a + 2 ^ 32) → InTime calls →
      Along step FewMarks w calls → (Along step Bounded w calls ↔ Along step Settled w calls) := by
  induction calls with
  | nil =>
    intro times w _ _ _ _
    exact Iff.rfl
  | cons call calls ih =>
    intro times w h hbefore htimes hfew
    rw [along_cons, along_cons]
    cases call with
    | mark => exact and_congr Iff.rfl (ih h.mark hbefore htimes hfew.2)
    | pump t =>
      obtain ⟨hlater, hrest⟩ := List.pairwise_cons.mp htimes
      have hnow : ∀ a ∈ times, a ≤ t ∧ t < a + 2 ^ 32 := fun a ha => hbefore a ha t List.mem_cons_self
      refine and_congr (h.bounded_iff hfew.1 hnow) (ih (h.pump hfew.1) ?_ hrest hfew.2)
      intro a ha b hb
      rcases List.mem_append.mp ha with hold | hnew
      · exact hbefore a hold b (List.mem_cons_of_mem t hb)
      · rw [List.mem_singleton.mp hnew]
        exact hlater b hb

/-- Bounded deferral. From a device with nothing to save, and with fewer than `2 ^ 32` marks
between two pumps, every pump keeps the bounds exactly if no pump finds a new mark in a burst that was
first found 5000 ms before. -/
theorem bounded_deferral_iff {d : Device} (hidle : Idle d) (calls : List PersistenceCall)
    (htimes : InTime calls) (hfew : Along step FewMarks { device := d } calls) :
    Along step Bounded { device := d } calls ↔ Along step Settled { device := d } calls :=
  along_bounded_iff (follows_idle hidle) (fun _ h => nomatch h) htimes hfew

theorem idle_default : Idle {} := ⟨rfl, rfl, rfl⟩

/-- One write, saved by the second pump. -/
theorem bounded_after_one_mark :
    Along step Bounded { device := {} } [.mark, .pump 100, .pump 500] :=
  (bounded_deferral_iff idle_default [.mark, .pump 100, .pump 500] (by unfold InTime; decide)
    ⟨trivial, show 1 < 2 ^ 32 by decide, show 0 < 2 ^ 32 by decide, trivial⟩).mpr
    ⟨trivial, fun _ _ hnone => (nomatch hnone), fun hpos => absurd hpos (Nat.lt_irrefl 0), trivial⟩

/-- A write before each pump: nothing is saved after 5000 ms. -/
theorem unsaved_after_steady_marks :
    ¬ ∀ (d : Device) (calls : List PersistenceCall), Idle d → InTime calls →
      Along step Bounded { device := d } calls := by
  intro h
  have hrun := h {} [.mark, .pump 0, .mark, .pump 300, .mark, .pump 5000] idle_default
    (by unfold InTime; decide)
  have hlast := hrun.2.2.2.2.2.1.1 0 rfl (by decide)
  exact absurd hlast (by decide)

end Watched

end KnxStack.Bau
