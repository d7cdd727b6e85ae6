import KnxStack.Transport.SingleConnection

/-!
# The retransmission timer

What a connection keeps about the TPDU it awaits the acknowledgement of, taken by itself: the TPDU
in pieces, the number of its repetitions, and a timer. Two kinds of moves change it. A received
frame may hurry the timer or make the TPDU go out at once (`Received`), and the maintenance call
repeats the TPDU when the timer has run out, or gives it up (`Maintained`).

`OnSchedule` is kept by every move. It says that as many repetitions went out as maintenance calls
have come that are twelve seconds apart, unless the repetitions are used up.
-/

set_option autoImplicit false

namespace KnxStack.Transport

open KnxStack.Lib KnxStack.Lib.Words KnxStack.Protocol KnxStack.Datalink

/-- The part of an entry that belongs to its pending TPDU. -/
structure RetransmitState where
  awaiting : Bool
  seqNum : UInt8
  apciRaw : UInt16
  payload : FixedVector UInt8 maxApduLength
  count : UInt8
  lastTxTimeMs : UInt32
  timeoutMs : UInt32
  maxRetries : UInt8

namespace RetransmitState

/-- The TPDU, put together again from its pieces. -/
def tpdu (r : RetransmitState) : List UInt8 :=
  buildTpdu (.create .numberedData (r.seqNum &&& 0x0F)) ⟨r.apciRaw⟩ r.payload.data

/-- Time since the last transmission. -/
def elapsed (r : RetransmitState) (now : UInt32) : Nat := (now - r.lastTxTimeMs).toNat

/-- The state after a repetition that starts the timer with the given timeout. -/
def repeatedAt (r : RetransmitState) (now timeoutMs : UInt32) : RetransmitState :=
  { r with count := r.count + 1, lastTxTimeMs := now, timeoutMs := timeoutMs }

/-- What a received frame does, and the TPDUs it puts on the network. -/
inductive Received (now : UInt32) (r : RetransmitState) :
    RetransmitState → List (List UInt8) → Prop where
  | untouched : Received now r r []
  | hurried (hawait : r.awaiting = true) :
      Received now r { r with lastTxTimeMs := TransportLayer.nakTxTime now r.timeoutMs } []
  | repeated (hawait : r.awaiting = true) (hpay : r.payload.data ≠ [])
      (hcount : r.count < r.maxRetries) :
      Received now r (r.repeatedAt now ackTimeoutMs) [r.tpdu]

/-- What the maintenance call does, and the TPDUs it puts on the network. A TPDU without payload is
passed over when it is due. -/
inductive Maintained (now : UInt32) (r : RetransmitState) :
    RetransmitState → List (List UInt8) → Prop where
  | waits (h : r.awaiting = true → r.elapsed now < r.timeoutMs.toNat) : Maintained now r r []
  | repeated (hawait : r.awaiting = true) (hdue : r.timeoutMs.toNat ≤ r.elapsed now)
      (hpay : r.payload.data ≠ []) (hcount : r.count < r.maxRetries) :
      Maintained now r (r.repeatedAt now (ConnectionTable.backoff r.timeoutMs)) [r.tpdu]
  | passedOver (hawait : r.awaiting = true) (hdue : r.timeoutMs.toNat ≤ r.elapsed now)
      (hpay : r.payload.data = []) (hcount : r.count < r.maxRetries) :
      Maintained now r { r with timeoutMs := ConnectionTable.backoff r.timeoutMs } []
  | givenUp (hawait : r.awaiting = true) (hdue : r.timeoutMs.toNat ≤ r.elapsed now)
      (hcount : r.maxRetries ≤ r.count) {r' : RetransmitState} (hdone : r'.awaiting = false)
      (hmax : r'.maxRetries = r.maxRetries) : Maintained now r r' []

/-! ## The schedule -/

/-- The time waited is on the timer. A `T_NAK` in the first seconds of the clock sets the time of
the last transmission to zero; up to six seconds may then be missing. -/
def Counted (waited : Nat) (now : UInt32) (r : RetransmitState) : Prop :=
  waited ≤ r.elapsed now ∨ (r.lastTxTimeMs = 0 ∧ waited ≤ r.elapsed now + 6000)

/-- The TPDU awaits its acknowledgement after `count` repetitions; `ticks` maintenance calls twelve
seconds apart have come, and `waited` milliseconds have passed since the last of them. -/
structure Waiting (tpdu : List UInt8) (max count ticks waited : Nat) (now : UInt32)
    (r : RetransmitState) : Prop where
  maxRetries_eq : r.maxRetries.toNat = max
  awaiting : r.awaiting = true
  tpdu_eq : r.tpdu = tpdu
  payload : max = 0 ∨ r.payload.data ≠ []
  count_eq : r.count.toNat = count
  count_le : count ≤ max
  timeout_pos : 0 < r.timeoutMs.toNat
  timeout_le : r.timeoutMs.toNat ≤ 6000
  timer : r.elapsed now ≤ r.timeoutMs.toNat
  timer_zero : now = 0 → r.elapsed now < r.timeoutMs.toNat
  ahead : ticks < count ∨ max ≤ count ∨ (ticks = count ∧ Counted waited now r)

/-- The TPDU is on its way through its repetitions, or has used them up. -/
inductive OnSchedule (tpdu : List UInt8) (max count ticks waited : Nat) (now : UInt32)
    (r : RetransmitState) : Prop where
  | waiting (h : Waiting tpdu max count ticks waited now r)
  | done (hmax : r.maxRetries.toNat = max) (hdone : r.awaiting = false) (hcount : count = max)

section Schedule

variable {tpdu : List UInt8} {max count ticks waited : Nat} {now t : UInt32}
  {r r' : RetransmitState} {out : List (List UInt8)}

theorem OnSchedule.count_le (h : OnSchedule tpdu max count ticks waited now r) : count ≤ max := by
  cases h with
  | waiting h => exact h.count_le
  | done _ _ hcount => exact hcount.le

theorem OnSchedule.count_eq (h : OnSchedule tpdu max count ticks waited now r)
    (hticks : max ≤ ticks) : count = max := by
  cases h with
  | done _ _ hcount => exact hcount
  | waiting h =>
    have hle := h.count_le
    rcases h.ahead with hlt | hmax | ⟨heq, -⟩
    · omega
    · omega
    · omega

theorem elapsed_repeatedAt (r : RetransmitState) (now timeoutMs : UInt32) :
    (r.repeatedAt now timeoutMs).elapsed now = 0 := by
  rw [elapsed, repeatedAt, UInt32.sub_self]
  rfl

theorem toNat_count_succ {r : RetransmitState} (h : r.count < r.maxRetries) :
    (r.count + 1).toNat = r.count.toNat + 1 := by
  have hlt := UInt8.lt_iff_toNat_lt.mp h
  have hmax := r.maxRetries.toNat_lt
  rw [UInt8.toNat_add]
  have h1 : (1 : UInt8).toNat = 1 := rfl
  omega

theorem Waiting.repeatedAt (h : Waiting tpdu max count ticks waited now r)
    (hcount : r.count < r.maxRetries) {timeoutMs : UInt32} (hpos : 0 < timeoutMs.toNat)
    (hle : timeoutMs.toNat ≤ 6000) {ticks' waited' : Nat}
    (hahead : ticks' ≤ count ∨ (ticks' = count + 1 ∧ waited' = 0)) :
    Waiting tpdu max (count + 1) ticks' waited' t (r.repeatedAt t timeoutMs) := by
  have hlt := UInt8.lt_iff_toNat_lt.mp hcount
  have helapsed := elapsed_repeatedAt r t timeoutMs
  rw [h.count_eq, h.maxRetries_eq] at hlt
  refine ⟨h.maxRetries_eq, h.awaiting, h.tpdu_eq, h.payload, ?_, hlt, hpos, hle, ?_, ?_, ?_⟩
  · rw [RetransmitState.repeatedAt, toNat_count_succ hcount, h.count_eq]
  · rw [helapsed]
    exact Nat.zero_le _
  · intro _
    rw [helapsed]
    exact hpos
  · rcases hahead with hbehind | ⟨hticks, hwaited⟩
    · exact Or.inl (Nat.lt_succ_of_le hbehind)
    · exact Or.inr (Or.inr ⟨hticks, Or.inl (by rw [hwaited]; exact Nat.zero_le _)⟩)

/-- A `T_NAK` lets the timer run out, or as far as the clock has come. -/
theorem elapsed_nakTxTime (r : RetransmitState) (now : UInt32) :
    ({ r with lastTxTimeMs := TransportLayer.nakTxTime now r.timeoutMs } : RetransmitState).elapsed
        now = min r.timeoutMs.toNat now.toNat := by
  have hlt := now.toNat_lt
  show (now - TransportLayer.nakTxTime now r.timeoutMs).toNat = _
  rw [TransportLayer.nakTxTime]
  split
  · next hle =>
    have hle' := UInt32.le_iff_toNat_le.mp hle
    have hsub := toNat_sub_of_le hle'
    rw [toNat_sub_of_le (by omega), hsub]
    omega
  · next hlt =>
    have hlt' := UInt32.lt_iff_toNat_lt.mp (UInt32.not_le.mp hlt)
    rw [UInt32.sub_zero]
    omega

/-- A `T_NAK` does not take time off the timer that was waited for. -/
theorem Counted.hurried (h : Counted waited now r) (htimer : r.elapsed now ≤ r.timeoutMs.toNat)
    (hlimit : r.timeoutMs.toNat ≤ 6000) :
    Counted waited now { r with lastTxTimeMs := TransportLayer.nakTxTime now r.timeoutMs } := by
  have helapsed := elapsed_nakTxTime r now
  by_cases hle : r.timeoutMs ≤ now
  · have hle' := UInt32.le_iff_toNat_le.mp hle
    rcases h with hcounted | ⟨hzero, hcounted⟩
    · left
      rw [helapsed]
      omega
    · -- the timer has run since the start of the clock, and ends right now
      have hnow : r.elapsed now = now.toNat := by rw [elapsed, hzero, UInt32.sub_zero]
      have heq : r.timeoutMs = now := UInt32.toNat_inj.mp (by omega)
      right
      refine ⟨?_, ?_⟩
      · show TransportLayer.nakTxTime now r.timeoutMs = 0
        rw [TransportLayer.nakTxTime, if_pos hle, heq, UInt32.sub_self]
      · rw [helapsed]
        omega
  · have hlt := UInt32.lt_iff_toNat_lt.mp (UInt32.not_le.mp hle)
    right
    refine ⟨?_, ?_⟩
    · show TransportLayer.nakTxTime now r.timeoutMs = 0
      rw [TransportLayer.nakTxTime, if_neg hle]
    · rw [helapsed]
      rcases h with hcounted | ⟨hzero, hcounted⟩
      · omega
      · have hnow : r.elapsed now = now.toNat := by rw [elapsed, hzero, UInt32.sub_zero]
        omega

theorem OnSchedule.received (h : OnSchedule tpdu max count ticks waited now r) (hnow : now ≠ 0)
    (hmove : Received now r r' out) :
    ∃ count', OnSchedule tpdu max count' ticks waited now r' ∧
      List.replicate count tpdu ++ out = List.replicate count' tpdu := by
  cases hmove with
  | untouched => exact ⟨count, h, List.append_nil _⟩
  | hurried hawait =>
    refine ⟨count, ?_, List.append_nil _⟩
    cases h with
    | done _ hdone => rw [hdone] at hawait; cases hawait
    | waiting h =>
      refine .waiting ⟨h.maxRetries_eq, h.awaiting, h.tpdu_eq, h.payload, h.count_eq, h.count_le,
        h.timeout_pos, h.timeout_le, ?_, ?_, ?_⟩
      · rw [elapsed_nakTxTime]
        exact min_le_left _ _
      · intro hzero
        exact absurd hzero hnow
      · rcases h.ahead with hlt | hmax | ⟨heq, hcounted⟩
        · exact Or.inl hlt
        · exact Or.inr (Or.inl hmax)
        · exact Or.inr (Or.inr ⟨heq, hcounted.hurried h.timer h.timeout_le⟩)
  | repeated hawait hpay hcount =>
    cases h with
    | done _ hdone => rw [hdone] at hawait; cases hawait
    | waiting h =>
      refine ⟨count + 1, ?_, ?_⟩
      · by_cases hticks : ticks ≤ count
        · exact .waiting (h.repeatedAt hcount (by decide) (by decide) (Or.inl hticks))
        · -- more calls than repetitions: the repetitions would be used up
          have hlt := UInt8.lt_iff_toNat_lt.mp hcount
          rw [h.count_eq, h.maxRetries_eq] at hlt
          rcases h.ahead with hahead | hmax | ⟨heq, -⟩
          · omega
          · omega
          · omega
      · rw [h.tpdu_eq, List.replicate_succ']

theorem OnSchedule.startClock (h : OnSchedule tpdu max count ticks waited 0 r) :
    OnSchedule tpdu max count ticks waited 1 r := by
  cases h with
  | done hmax hdone hcount => exact .done hmax hdone hcount
  | waiting h =>
    have hlt := h.timer_zero rfl
    have hlimit := h.timeout_le
    have hsucc : r.elapsed 1 = r.elapsed 0 + 1 := by
      rw [elapsed, elapsed] at *
      rw [toNat_sub_add_sub (b := 0)]
      · rfl
      · have h1 : ((1 : UInt32) - 0).toNat = 1 := rfl
        omega
    refine .waiting ⟨h.maxRetries_eq, h.awaiting, h.tpdu_eq, h.payload, h.count_eq, h.count_le,
      h.timeout_pos, h.timeout_le, ?_, ?_, ?_⟩
    · omega
    · intro hzero
      cases hzero
    · rcases h.ahead with hticks | hmax | ⟨heq, hcounted | ⟨hzero, hcounted⟩⟩
      · exact Or.inl hticks
      · exact Or.inr (Or.inl hmax)
      · exact Or.inr (Or.inr ⟨heq, Or.inl (by omega)⟩)
      · exact Or.inr (Or.inr ⟨heq, Or.inr ⟨hzero, by omega⟩⟩)

/-- The next maintenance call, `gap` milliseconds later: it counts if twelve seconds have passed since
the last one that counted. -/
def NextTick (ticks waited gap ticks' waited' : Nat) : Prop :=
  (12000 ≤ waited + gap ∧ ticks' = ticks + 1 ∧ waited' = 0) ∨
    (waited + gap < 12000 ∧ ticks' = ticks ∧ waited' = waited + gap)

theorem Waiting.elapsed_later (h : Waiting tpdu max count ticks waited now r)
    (hgap : (t - now).toNat + 12000 < 2 ^ 32) :
    r.elapsed t = r.elapsed now + (t - now).toNat := by
  have htimer := h.timer
  have hlimit := h.timeout_le
  rw [elapsed, elapsed] at *
  apply toNat_sub_add_sub
  omega

theorem Waiting.waits (h : Waiting tpdu max count ticks waited now r)
    (hgap : (t - now).toNat + 12000 < 2 ^ 32) {ticks' waited' : Nat}
    (hnext : NextTick ticks waited (t - now).toNat ticks' waited')
    (hwait : r.elapsed t < r.timeoutMs.toNat) : Waiting tpdu max count ticks' waited' t r := by
  have helapsed := h.elapsed_later hgap
  have hlimit := h.timeout_le
  refine ⟨h.maxRetries_eq, h.awaiting, h.tpdu_eq, h.payload, h.count_eq, h.count_le,
    h.timeout_pos, hlimit, hwait.le, fun _ => hwait, ?_⟩
  rcases hnext with ⟨hlate, rfl, rfl⟩ | ⟨hearly, rfl, rfl⟩
  · rcases h.ahead with hlt | hmax | ⟨heq, hcounted | ⟨hzero, hcounted⟩⟩
    · by_cases hsame : ticks + 1 = count
      · exact Or.inr (Or.inr ⟨hsame, Or.inl (Nat.zero_le _)⟩)
      · exact Or.inl (by omega)
    · exact Or.inr (Or.inl hmax)
    · omega
    · omega
  · rcases h.ahead with hlt | hmax | ⟨heq, hcounted | ⟨hzero, hcounted⟩⟩
    · exact Or.inl hlt
    · exact Or.inr (Or.inl hmax)
    · exact Or.inr (Or.inr ⟨heq, Or.inl (by omega)⟩)
    · exact Or.inr (Or.inr ⟨heq, Or.inr ⟨hzero, by omega⟩⟩)

theorem backoff_bounds {timeoutMs : UInt32} (h : timeoutMs.toNat ≤ 6000)
    (hpos : 0 < timeoutMs.toNat) :
    0 < (ConnectionTable.backoff timeoutMs).toNat ∧
      (ConnectionTable.backoff timeoutMs).toNat ≤ 6000 := by
  have hlimit : connectionTimeoutMs.toNat = 6000 := rfl
  have hdouble : (timeoutMs * 2).toNat = timeoutMs.toNat * 2 := by
    have h2 : (2 : UInt32).toNat = 2 := rfl
    rw [UInt32.toNat_mul, h2]
    omega
  rw [ConnectionTable.backoff]
  split
  · next hle =>
    have hle' := UInt32.le_iff_toNat_le.mp hle
    omega
  · omega

theorem OnSchedule.maintained (h : OnSchedule tpdu max count ticks waited now r)
    (hgap : (t - now).toNat + 12000 < 2 ^ 32) {ticks' waited' : Nat}
    (hnext : NextTick ticks waited (t - now).toNat ticks' waited')
    (hmove : Maintained t r r' out) :
    ∃ count', OnSchedule tpdu max count' ticks' waited' t r' ∧
      List.replicate count tpdu ++ out = List.replicate count' tpdu := by
  cases h with
  | done hmax hdone hcount =>
    cases hmove with
    | waits _ => exact ⟨count, .done hmax hdone hcount, List.append_nil _⟩
    | repeated hawait => rw [hdone] at hawait; cases hawait
    | passedOver hawait => rw [hdone] at hawait; cases hawait
    | givenUp hawait => rw [hdone] at hawait; cases hawait
  | waiting h =>
    cases hmove with
    | waits hwait =>
      exact ⟨count, .waiting (h.waits hgap hnext (hwait h.awaiting)), List.append_nil _⟩
    | repeated hawait hdue hpay hcount =>
      refine ⟨count + 1, .waiting ?_, ?_⟩
      · rcases backoff_bounds h.timeout_le h.timeout_pos with ⟨hpos, hle⟩
        apply h.repeatedAt hcount hpos hle
        -- a call that counts cannot come before the repetition it counts for
        have hlt := UInt8.lt_iff_toNat_lt.mp hcount
        rw [h.count_eq, h.maxRetries_eq] at hlt
        have hahead : ticks ≤ count := by
          rcases h.ahead with hlt | hmax | ⟨heq, -⟩
          · omega
          · omega
          · omega
        rcases hnext with ⟨-, rfl, rfl⟩ | ⟨-, rfl, rfl⟩
        · by_cases hsame : ticks = count
          · exact Or.inr ⟨by rw [hsame], rfl⟩
          · exact Or.inl (by omega)
        · exact Or.inl hahead
      · rw [h.tpdu_eq, List.replicate_succ']
    | passedOver hawait hdue hpay hcount =>
      -- only a TPDU without payload is passed over
      have hlt := UInt8.lt_iff_toNat_lt.mp hcount
      rw [h.maxRetries_eq] at hlt
      rcases h.payload with hzero | hne
      · omega
      · exact absurd hpay hne
    | givenUp hawait hdue hcount hdone hmax =>
      have hle := UInt8.le_iff_toNat_le.mp hcount
      rw [h.count_eq, h.maxRetries_eq] at hle
      refine ⟨count, .done ?_ hdone (Nat.le_antisymm h.count_le hle), List.append_nil _⟩
      rw [hmax, h.maxRetries_eq]

end Schedule

end RetransmitState

end KnxStack.Transport
