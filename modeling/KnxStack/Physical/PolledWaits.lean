import KnxStack.Physical.IpMedia
import KnxStack.Physical.MacReceive
import KnxStack.Physical.MacOutcome
import KnxStack.Physical.TpuartReceive

/-!
# Timeouts of polled waits

The waits of the stack poll a clock of 32 bits and compare it with a deadline that was computed when they
began. `waitUntilReadable` (`netip/detail/polling.hpp`) and `TpuartPhysical` keep the deadline in 32 bits,
where it wraps; `Tp1MacPhysical` and `IpRoutingPhysical` keep it in 64 bits, which the clock never reaches
once it has wrapped.

- `wideDeadline_iff`, `narrowDeadline_iff`: when the comparison says what the wrapping difference says.
- `timeouts_exact_iff`: the same of the five waits, after any number of polls without an event.
-/

set_option autoImplicit false

namespace KnxStack.Physical

open KnxStack.Lib

/-! ## Deadlines -/

/-- At least the timeout has elapsed, modulo the clock. -/
def Elapsed (startMs timeoutMs nowMs : UInt32) : Prop := timeoutMs ≤ nowMs - startMs

instance (startMs timeoutMs nowMs : UInt32) : Decidable (Elapsed startMs timeoutMs nowMs) :=
  inferInstanceAs (Decidable (_ ≤ _))

/-- The clock has not wrapped since the start, or the timeout has not elapsed. -/
def WideExact (startMs timeoutMs nowMs : UInt32) : Prop :=
  startMs ≤ nowMs ∨ nowMs - startMs < timeoutMs

/-- The deadline wraps if and only if the clock has wrapped since the start. -/
def NarrowExact (startMs timeoutMs nowMs : UInt32) : Prop :=
  startMs ≤ startMs + timeoutMs ↔ startMs ≤ nowMs

instance (startMs timeoutMs nowMs : UInt32) : Decidable (NarrowExact startMs timeoutMs nowMs) :=
  inferInstanceAs (Decidable (_ ↔ _))

instance (startMs timeoutMs nowMs : UInt32) : Decidable (WideExact startMs timeoutMs nowMs) :=
  inferInstanceAs (Decidable (_ ∨ _))

theorem elapsed_iff (startMs timeoutMs nowMs : UInt32) : Elapsed startMs timeoutMs nowMs
    ↔ timeoutMs.toNat ≤ (2 ^ 32 - startMs.toNat + nowMs.toNat) % 2 ^ 32 := by
  unfold Elapsed
  rw [UInt32.le_iff_toNat_le, UInt32.toNat_sub]

theorem wideDeadline_iff (startMs timeoutMs nowMs : UInt32) :
    ((startMs.toUInt64 + timeoutMs.toUInt64 ≤ nowMs.toUInt64) ↔ Elapsed startMs timeoutMs nowMs)
      ↔ WideExact startMs timeoutMs nowMs := by
  have hstart := startMs.toNat_lt
  have htimeout := timeoutMs.toNat_lt
  have hnow := nowMs.toNat_lt
  rw [elapsed_iff, UInt64.le_iff_toNat_le, UInt64.toNat_add]
  unfold WideExact
  rw [UInt32.le_iff_toNat_le, UInt32.lt_iff_toNat_lt, UInt32.toNat_sub]
  simp only [UInt32.toNat_toUInt64]
  omega

theorem narrowDeadline_iff (startMs timeoutMs nowMs : UInt32) :
    ((startMs + timeoutMs ≤ nowMs) ↔ Elapsed startMs timeoutMs nowMs)
      ↔ NarrowExact startMs timeoutMs nowMs := by
  have hstart := startMs.toNat_lt
  have htimeout := timeoutMs.toNat_lt
  have hnow := nowMs.toNat_lt
  rw [elapsed_iff, UInt32.le_iff_toNat_le, UInt32.toNat_add]
  unfold NarrowExact
  rw [UInt32.le_iff_toNat_le, UInt32.le_iff_toNat_le, UInt32.toNat_add]
  omega

/-! ## The waits -/

/-- The loop of `waitUntilReadable`, with the clock and what `ready` answers in each turn; `none` while it
is still waiting. -/
def readableLoop (deadline : UInt32) : List (UInt32 × Bool) → Option Bool
  | [] => none
  | (nowMs, ready) :: turns =>
    if nowMs < deadline then if ready then some true else readableLoop deadline turns
    else some ready

/-- `waitUntilReadable`. -/
def waitUntilReadable (startMs : UInt32) (timeoutMs : Int) (turns : List (UInt32 × Bool)) :
    Option Bool :=
  if timeoutMs ≤ 0 then turns.head?.map Prod.snd
  else readableLoop (startMs + UInt32.ofInt timeoutMs) turns

namespace Tp1MacPhysical

/-- The loop of `waitForTxOutcome`, with the driver as the interrupts leave it before each turn and the
clock; `none` while it is still waiting. -/
def waitForTxOutcome (startMs timeoutMs : UInt32) : List (Driving × UInt32) → Tp1MacPhysical →
    Tp1MacPhysical × Option (Except ErrorCode Unit)
  | [], m => (m, none)
  | (driving, nowMs) :: turns, m =>
    match ({ m with driving }).waitTurn
        (decide (startMs.toUInt64 + timeoutMs.toUInt64 ≤ nowMs.toUInt64)) with
    | (m, some result) => (m, some result)
    | (m, none) => waitForTxOutcome startMs timeoutMs turns m

end Tp1MacPhysical

namespace IpRoutingPhysical

/-- `beginReceive`, on an open medium. -/
def beginReceive (p : IpRoutingPhysical) (timeoutMs nowMs : UInt32) : IpRoutingPhysical :=
  { p with receive := { p.receive with
      rxActive := true, rxDeadlineMs := nowMs.toUInt64 + timeoutMs.toUInt64 } }

/-- `pollReceive`, with the datagram that is there. -/
def pollReceive (p : IpRoutingPhysical) (datagram : Option (List UInt8)) (nowMs : UInt32) :
    IpRoutingPhysical × Result OperationProgressState :=
  if !p.receive.rxActive then (p, .error .operationNotReady)
  else
    let drained := datagram.elim p p.drainInboundOnce
    match drained.receive.takeFront with
    | (some _, receive) => ({ drained with receive }, .ok .success)
    | (none, _) =>
      if drained.receive.rxDeadlineMs ≤ nowMs.toUInt64 then
        ({ drained with receive := { drained.receive with rxActive := false } }, .ok .timeout)
      else (drained, .ok .pending)

end IpRoutingPhysical

/-- What a reception of `TpuartPhysical` keeps, above the parser. -/
structure TpuartReception where
  parser : TpuartPhysical := {}
  progressRxActive : Bool := false
  progressRxDeadlineMs : UInt32 := 0
  progressRxLength : Nat := 0
  deriving DecidableEq, Repr

namespace TpuartReception

/-- `beginReceive`, on an initialized medium. -/
def beginReceive (t : TpuartReception) (timeoutMs nowMs : UInt32) : TpuartReception :=
  { t with
    progressRxActive := true
    progressRxDeadlineMs := nowMs + timeoutMs
    progressRxLength := 0 }

/-- `pollReceive`. -/
def pollReceive (t : TpuartReception) (nowMs : UInt32) :
    TpuartReception × Result OperationProgressState :=
  if !t.progressRxActive then (t, .error .operationNotReady)
  else
    match t.parser.rxQueue with
    | frame :: rest =>
      let taken := { t with parser := { t.parser with rxQueue := rest }, progressRxActive := false }
      if frame.length < 6 ∨ TpuartPhysical.maxTp1FrameSize < frame.length then
        (taken, .error .invalidFrameSize)
      else ({ taken with progressRxLength := frame.length }, .ok .success)
    | [] =>
      if t.progressRxDeadlineMs ≤ nowMs then
        ({ t with progressRxActive := false }, .ok .timeout)
      else (t, .ok .pending)

/-- `uartRxCallback`. -/
def uartRx (t : TpuartReception) (chunks : List (List UInt8)) : TpuartReception :=
  { t with parser := t.parser.uartRx chunks }

end TpuartReception

/-! ## Pending polls -/

section Polls

variable {σ ι : Type}

/-- The state after polls that were all answered pending. -/
def afterPending (poll : σ → ι → σ × Result OperationProgressState) : List ι → σ → Option σ
  | [], s => some s
  | input :: inputs, s =>
    if (poll s input).2 = .ok .pending then afterPending poll inputs (poll s input).1 else none

theorem afterPending_invariant {poll : σ → ι → σ × Result OperationProgressState} {I : σ → Prop}
    (hkeep : ∀ s input, I s → (poll s input).2 = .ok .pending → I (poll s input).1)
    (inputs : List ι) {s later : σ} (hbegun : I s) (h : afterPending poll inputs s = some later) :
    I later := by
  induction inputs generalizing s with
  | nil =>
    cases h
    exact hbegun
  | cons input inputs ih =>
    unfold afterPending at h
    split at h
    · rename_i hpending
      exact ih (hkeep s input hbegun hpending) h
    · cases h

theorem ite_timeout_iff {late : Prop} [Decidable late] (ended waiting : σ) :
    (if late then (ended, (.ok .timeout : Result OperationProgressState))
      else (waiting, .ok .pending)).2 = .ok .timeout ↔ late := by
  split
  · rename_i hlate
    exact iff_of_true rfl hlate
  · rename_i hopen
    exact iff_of_false nofun hopen

end Polls

theorem readableLoop_append {deadline : UInt32} {earlier : List (UInt32 × Bool)}
    (h : readableLoop deadline earlier = none) (turns : List (UInt32 × Bool)) :
    readableLoop deadline (earlier ++ turns) = readableLoop deadline turns := by
  induction earlier with
  | nil => rfl
  | cons turn earlier ih =>
    obtain ⟨nowMs, ready⟩ := turn
    unfold readableLoop at h
    rw [List.cons_append, readableLoop]
    split at h
    · rename_i hwaits
      rw [if_pos hwaits]
      cases ready with
      | true => cases h
      | false => exact ih h
    · cases h

theorem ofInt_toNat (timeoutMs : UInt32) : UInt32.ofInt timeoutMs.toNat = timeoutMs := by
  apply UInt32.toNat_inj.mp
  have hlt := timeoutMs.toNat_lt
  simp only [UInt32.ofInt, Int.reducePow, UInt32.toNat_ofNat', Nat.reducePow]
  omega

/-- `waitUntilReadable`, in the first turn that nothing is there and the wait does not go on after. -/
theorem waitUntilReadable_iff {startMs timeoutMs : UInt32} {earlier : List (UInt32 × Bool)}
    (hearlier : waitUntilReadable startMs timeoutMs.toNat earlier = none) (nowMs : UInt32) :
    waitUntilReadable startMs timeoutMs.toNat (earlier ++ [(nowMs, false)]) = some false
      ↔ timeoutMs = 0 ∨ startMs + timeoutMs ≤ nowMs := by
  unfold waitUntilReadable at hearlier ⊢
  rw [ofInt_toNat] at hearlier ⊢
  by_cases hzero : timeoutMs = 0
  · subst hzero
    rw [if_pos (by decide)] at hearlier ⊢
    cases earlier with
    | nil => simp
    | cons first rest => cases hearlier
  · -- The wait goes on as long as the reading is below the deadline, which may have wrapped.
    have hpos : ¬ ((timeoutMs.toNat : Int) ≤ 0) := by
      have hne : timeoutMs.toNat ≠ 0 := by
        intro h
        exact hzero (UInt32.toNat_inj.mp h)
      omega
    rw [if_neg hpos] at hearlier ⊢
    rw [readableLoop_append hearlier]
    simp only [readableLoop, hzero, false_or]
    by_cases hopen : nowMs < startMs + timeoutMs
    · rw [if_pos hopen]
      apply iff_of_false nofun
      exact UInt32.not_le.mpr hopen
    · rw [if_neg hopen]
      exact iff_of_true rfl (UInt32.not_lt.mp hopen)

namespace Tp1MacPhysical

theorem outcomeResult_reportAnswer (c : Tp1MacController) : outcomeResult (reportAnswer c) ≠ none := by
  unfold reportAnswer
  split
  · nofun
  · split <;> nofun

/-- A turn of `waitForTxOutcome` that the clock alone can end. -/
theorem waitTurn_quiet {m : Tp1MacPhysical} (hquiet : (m.waitTurn false).2 = none) (expired : Bool) :
    (m.waitTurn expired).2 = if expired then some (.error .timeout) else none := by
  unfold waitTurn at hquiet ⊢
  dsimp only at hquiet ⊢
  split at hquiet
  · rename_i hunasked
    rw [if_pos hunasked]
    split at hquiet
    · cases hquiet
    · rename_i hsending
      rw [if_neg hsending]
  · rename_i hasked
    rw [if_neg hasked]
    split at hquiet
    · exact absurd hquiet (outcomeResult_reportAnswer _)
    · rename_i hwaits
      rw [if_neg hwaits]

/-- The loop of `waitForTxOutcome`, in a turn that the clock alone can end. -/
theorem waitForTxOutcome_iff {startMs timeoutMs : UInt32} {earlier : List (Driving × UInt32)}
    {m later : Tp1MacPhysical}
    (hearlier : waitForTxOutcome startMs timeoutMs earlier m = (later, none)) {driving : Driving}
    (hquiet : ({ later with driving }.waitTurn false).2 = none) (nowMs : UInt32) :
    (waitForTxOutcome startMs timeoutMs (earlier ++ [(driving, nowMs)]) m).2
        = some (.error .timeout)
      ↔ startMs.toUInt64 + timeoutMs.toUInt64 ≤ nowMs.toUInt64 := by
  induction earlier generalizing m with
  | nil =>
    cases hearlier
    have hturn := waitTurn_quiet hquiet
      (decide (startMs.toUInt64 + timeoutMs.toUInt64 ≤ nowMs.toUInt64))
    rw [List.nil_append]
    unfold waitForTxOutcome
    split
    · rename_i next result hended
      rw [hended] at hturn
      by_cases hlate : startMs.toUInt64 + timeoutMs.toUInt64 ≤ nowMs.toUInt64
      · simp only [hlate, decide_true, if_true] at hturn
        exact iff_of_true hturn hlate
      · simp [hlate] at hturn
    · rename_i next hwaits
      rw [hwaits] at hturn
      by_cases hlate : startMs.toUInt64 + timeoutMs.toUInt64 ≤ nowMs.toUInt64
      · simp [hlate] at hturn
      · exact iff_of_false nofun hlate
  | cons turn earlier ih =>
    obtain ⟨before, thenMs⟩ := turn
    rw [List.cons_append]
    unfold waitForTxOutcome at hearlier ⊢
    split at hearlier
    · cases hearlier
    · exact ih hearlier

end Tp1MacPhysical

namespace MacReceive

/-- A reception that waits for a frame until a deadline. -/
structure Waits (deadlineMs : UInt64) (m : MacReceive) : Prop where
  active : (m.initialized && m.receiveActive) = true
  deadline : m.receiveDeadlineMs = deadlineMs

variable {deadlineMs : UInt64} {m : MacReceive}

theorem Waits.handleTp1Event (h : m.Waits deadlineMs) (event : RxEvent) :
    (m.handleTp1Event event).Waits deadlineMs := by
  obtain ⟨hinitialized, hactive⟩ := initialized_handleTp1Event m event
  constructor
  · rw [hinitialized, hactive]
    exact h.active
  · rw [← h.deadline]
    unfold MacReceive.handleTp1Event makeRoom insert
    split_ifs <;> rfl

theorem Waits.tick (h : m.Waits deadlineMs) (events : List RxEvent) :
    (events.foldl MacReceive.handleTp1Event m).Waits deadlineMs := by
  induction events generalizing m with
  | nil => exact h
  | cons event events ih => exact ih (h.handleTp1Event event)

theorem Waits.pollReceive (h : m.Waits deadlineMs) {events : List RxEvent} {nowMs : UInt32}
    (hpending : (m.pollReceive events nowMs).2 = .ok .pending) :
    (m.pollReceive events nowMs).1.Waits deadlineMs := by
  have hticked := h.tick events
  rw [pollReceive_active h.active] at hpending ⊢
  dsimp only at hpending ⊢
  split at hpending
  · cases hpending
  · split at hpending
    · cases hpending
    · rename_i hopen
      rw [if_neg hopen]
      exact hticked

theorem waits_beginReceive (hinitialized : m.initialized = true) (timeoutMs startMs : UInt32) :
    (m.beginReceive timeoutMs startMs).1.Waits (startMs.toUInt64 + timeoutMs.toUInt64) := by
  unfold beginReceive
  rw [hinitialized]
  exact ⟨rfl, rfl⟩

/-- `pollReceive`, with nothing in the ring and nothing delivered. -/
theorem Waits.timeout_iff (h : m.Waits deadlineMs) (hempty : m.rxFrames.count = 0) (nowMs : UInt32) :
    (m.pollReceive [] nowMs).2 = .ok .timeout ↔ deadlineMs ≤ nowMs.toUInt64 := by
  rw [pollReceive_active h.active]
  simp only [List.foldl_nil, Ring.front, hempty, if_true, h.deadline]
  exact ite_timeout_iff _ _

end MacReceive

namespace IpRoutingPhysical

/-- A reception that waits for a frame until a deadline. -/
structure Waits (deadlineMs : UInt64) (p : IpRoutingPhysical) : Prop where
  active : p.receive.rxActive = true
  deadline : p.receive.rxDeadlineMs = deadlineMs

variable {deadlineMs : UInt64} {p : IpRoutingPhysical}

theorem Waits.drainInboundOnce (h : p.Waits deadlineMs) (datagram : List UInt8) :
    (p.drainInboundOnce datagram).Waits deadlineMs := by
  unfold IpRoutingPhysical.drainInboundOnce
  split
  · exact ⟨h.active, h.deadline⟩
  · exact h

theorem Waits.pollReceive (h : p.Waits deadlineMs) {datagram : Option (List UInt8)} {nowMs : UInt32}
    (hpending : (p.pollReceive datagram nowMs).2 = .ok .pending) :
    (p.pollReceive datagram nowMs).1.Waits deadlineMs := by
  have hdrained : (datagram.elim p p.drainInboundOnce).Waits deadlineMs := by
    cases datagram with
    | none => exact h
    | some datagram => exact h.drainInboundOnce datagram
  unfold IpRoutingPhysical.pollReceive at hpending ⊢
  rw [h.active] at hpending ⊢
  simp only [Bool.not_true, Bool.false_eq_true, if_false] at hpending ⊢
  split at hpending
  · cases hpending
  · split at hpending
    · cases hpending
    · rename_i hopen
      rw [if_neg hopen]
      exact hdrained

/-- `pollReceive`, with an empty queue and no datagram. -/
theorem Waits.timeout_iff (h : p.Waits deadlineMs) (hempty : p.receive.rxQueue = [])
    (nowMs : UInt32) :
    (p.pollReceive none nowMs).2 = .ok .timeout ↔ deadlineMs ≤ nowMs.toUInt64 := by
  unfold IpRoutingPhysical.pollReceive
  simp only [h.active, Bool.not_true, Bool.false_eq_true, if_false, Option.elim_none,
    IpReceive.takeFront, hempty, h.deadline]
  exact ite_timeout_iff _ _

end IpRoutingPhysical

namespace TpuartReception

/-- A reception that waits for a frame until a deadline. -/
structure Waits (deadlineMs : UInt32) (t : TpuartReception) : Prop where
  active : t.progressRxActive = true
  deadline : t.progressRxDeadlineMs = deadlineMs

variable {deadlineMs : UInt32} {t : TpuartReception}

theorem Waits.uartRx (h : t.Waits deadlineMs) (chunks : List (List UInt8)) :
    (t.uartRx chunks).Waits deadlineMs :=
  ⟨h.active, h.deadline⟩

theorem Waits.pollReceive (h : t.Waits deadlineMs) {nowMs : UInt32}
    (hpending : (t.pollReceive nowMs).2 = .ok .pending) :
    (t.pollReceive nowMs).1.Waits deadlineMs := by
  unfold TpuartReception.pollReceive at hpending ⊢
  rw [h.active] at hpending ⊢
  simp only [Bool.not_true, Bool.false_eq_true, if_false] at hpending ⊢
  split at hpending
  · split at hpending <;> cases hpending
  · split at hpending
    · cases hpending
    · rename_i hopen
      rw [if_neg hopen]
      exact h

/-- `pollReceive`, with an empty queue. -/
theorem Waits.timeout_iff (h : t.Waits deadlineMs) (hempty : t.parser.rxQueue = [])
    (nowMs : UInt32) :
    (t.pollReceive nowMs).2 = .ok .timeout ↔ deadlineMs ≤ nowMs := by
  unfold TpuartReception.pollReceive
  simp only [h.active, Bool.not_true, Bool.false_eq_true, if_false, hempty, h.deadline]
  exact ite_timeout_iff _ _

end TpuartReception

/-! ## All waits -/

section Exact

variable (startMs timeoutMs nowMs : UInt32)

/-- A wait is exact in a turn: it reports a timeout if and only if the timeout has elapsed. -/
def Exact (reports : Prop) : Prop := reports ↔ Elapsed startMs timeoutMs nowMs

instance (reports : Prop) [Decidable reports] : Decidable (Exact startMs timeoutMs nowMs reports) :=
  inferInstanceAs (Decidable (_ ↔ _))

/-- The waits on a poll without an event, after any polls that were pending: those with a deadline of
64 bits are exact where the clock has not wrapped or the time is not over, those with one of 32 bits
where the clock has wrapped as the deadline has. -/
theorem timeouts_exact_iff :
    (∀ earlier, waitUntilReadable startMs timeoutMs.toNat earlier = none →
      (Exact startMs timeoutMs nowMs
          (waitUntilReadable startMs timeoutMs.toNat (earlier ++ [(nowMs, false)]) = some false)
        ↔ timeoutMs = 0 ∨ NarrowExact startMs timeoutMs nowMs))
    ∧ (∀ (m later : MacReceive) (inputs : List (List RxEvent × UInt32)), m.initialized = true →
      afterPending (fun m input => m.pollReceive input.1 input.2) inputs
        (m.beginReceive timeoutMs startMs).1 = some later →
      later.rxFrames.count = 0 →
      (Exact startMs timeoutMs nowMs ((later.pollReceive [] nowMs).2 = .ok .timeout)
        ↔ WideExact startMs timeoutMs nowMs))
    ∧ (∀ (m later : Tp1MacPhysical) earlier driving,
      Tp1MacPhysical.waitForTxOutcome startMs timeoutMs earlier m = (later, none) →
      ({ later with driving }.waitTurn false).2 = none →
      (Exact startMs timeoutMs nowMs
          ((Tp1MacPhysical.waitForTxOutcome startMs timeoutMs (earlier ++ [(driving, nowMs)]) m).2
            = some (.error .timeout))
        ↔ WideExact startMs timeoutMs nowMs))
    ∧ (∀ (p later : IpRoutingPhysical) (inputs : List (Option (List UInt8) × UInt32)),
      afterPending (fun p input => p.pollReceive input.1 input.2) inputs
        (p.beginReceive timeoutMs startMs) = some later →
      later.receive.rxQueue = [] →
      (Exact startMs timeoutMs nowMs ((later.pollReceive none nowMs).2 = .ok .timeout)
        ↔ WideExact startMs timeoutMs nowMs))
    ∧ (∀ (t later : TpuartReception) (inputs : List (List (List UInt8) × UInt32)),
      afterPending (fun t input => (t.uartRx input.1).pollReceive input.2) inputs
        (t.beginReceive timeoutMs startMs) = some later →
      later.parser.rxQueue = [] →
      (Exact startMs timeoutMs nowMs ((later.pollReceive nowMs).2 = .ok .timeout)
        ↔ NarrowExact startMs timeoutMs nowMs)) := by
  refine ⟨?_, ?_, ?_, ?_, ?_⟩
  · intro earlier hearlier
    unfold Exact
    rw [waitUntilReadable_iff hearlier]
    by_cases hzero : timeoutMs = 0
    · refine iff_of_true ?_ (.inl hzero)
      refine iff_of_true (.inl hzero) ?_
      rw [hzero]
      exact UInt32.zero_le
    · simp only [hzero, false_or]
      exact narrowDeadline_iff startMs timeoutMs nowMs
  · intro m later inputs hinitialized hearlier hempty
    have hbegun := MacReceive.waits_beginReceive hinitialized timeoutMs startMs
    have hlater := afterPending_invariant (fun _ _ h => h.pollReceive) inputs hbegun hearlier
    unfold Exact
    rw [hlater.timeout_iff hempty]
    exact wideDeadline_iff startMs timeoutMs nowMs
  · intro m later earlier driving hearlier hquiet
    unfold Exact
    rw [Tp1MacPhysical.waitForTxOutcome_iff hearlier hquiet]
    exact wideDeadline_iff startMs timeoutMs nowMs
  · intro p later inputs hearlier hempty
    have hbegun : (p.beginReceive timeoutMs startMs).Waits _ := ⟨rfl, rfl⟩
    have hlater := afterPending_invariant (fun _ _ h => h.pollReceive) inputs hbegun hearlier
    unfold Exact
    rw [hlater.timeout_iff hempty]
    exact wideDeadline_iff startMs timeoutMs nowMs
  · intro t later inputs hearlier hempty
    have hbegun : (t.beginReceive timeoutMs startMs).Waits _ := ⟨rfl, rfl⟩
    have hlater := afterPending_invariant (fun _ _ h => (h.uartRx _).pollReceive) inputs hbegun
      hearlier
    unfold Exact
    rw [hlater.timeout_iff hempty]
    exact narrowDeadline_iff startMs timeoutMs nowMs

end Exact

/-- A wait of 100 ms, away from the wrap of the clock. -/
theorem timeouts_exact_early :
    Exact 5 100 105 (waitUntilReadable 5 100 [(10, false), (105, false)] = some false)
      ∧ Exact 5 100 10 (((({ initialized := true } : MacReceive).beginReceive 100 5).1.pollReceive []
        10).2 = .ok .timeout) := by
  have hexact := timeouts_exact_iff 5 100
  constructor
  · exact ((hexact 105).1 [(10, false)] (by decide)).mpr (.inr (by decide))
  · exact ((hexact 10).2.1 { initialized := true } _ [] rfl rfl rfl).mpr (by decide)

/-- 16 ms before the wrap of the clock, a wait of 100 ms: the deadlines of 32 bits are over at once, those
of 64 bits never. -/
theorem timeouts_inexact :
    ¬ Exact 0xFFFFFFF0 100 0xFFFFFFF1
        (waitUntilReadable 0xFFFFFFF0 100 [(0xFFFFFFF1, false)] = some false)
      ∧ ¬ Exact 0xFFFFFFF0 100 0x100
        (((({ initialized := true } : MacReceive).beginReceive 100 0xFFFFFFF0).1.pollReceive []
          0x100).2 = .ok .timeout)
      ∧ ¬ Exact 0xFFFFFFF0 100 0x100
        (((({} : IpRoutingPhysical).beginReceive 100 0xFFFFFFF0).pollReceive none 0x100).2
          = .ok .timeout)
      ∧ ¬ Exact 0xFFFFFFF0 100 0xFFFFFFF1
        (((({} : TpuartReception).beginReceive 100 0xFFFFFFF0).pollReceive 0xFFFFFFF1).2
          = .ok .timeout) := by
  decide

end KnxStack.Physical
