import Mathlib.Data.List.Chain
import KnxStack.Application.TelegramRateLimiter
import KnxStack.Bau.GroupRuntime

/-!
# Transmit shaping

The telegrams that a group object of this device sends: `sendGroupValueForObject` sends an update at
once or leaves it pending, and `pumpGroupObjectTransmissions` sends what is pending
(`bau_group_runtime.cpp`). Both ask the policy of the object (`application/group_object.cpp`), and the
limiter that all objects share.

A run has one object, and the calls of the limiter that others make. The loop of the pump stops at the
first object that the limiter refuses, and then refuses this one too, so that the loop over the others
is such calls in front of the pump.

`shaped_run` says what holds in every run, and what more in every run in which no update goes back to the
value that was sent last while another is pending: such an update is suppressed, and the pump sends it
all the same.
-/

set_option autoImplicit false

namespace KnxStack.Bau.TransmitShaping

open KnxStack.Application KnxStack.Lib

/-! ## Group objects -/

/-- `GroupObjectTransmitPolicy`. A threshold above zero compares decoded magnitudes: of the value and
of the last one sent. -/
structure GroupObjectTransmitPolicy where
  onChangeEnabled : Bool := false
  changeThreshold : Option (List UInt8 → List UInt8 → Bool) := none
  cyclicIntervalMs : UInt32 := 0
  minIntervalMs : UInt32 := 0

/-- `PublishDecision`. -/
inductive PublishDecision where
  | send
  | defer
  | suppress
  deriving DecidableEq, Repr

/-- `GroupObject`, as far as it sends. -/
structure GroupObject where
  communication : Bool := true
  transmitEnable : Bool := true
  transmitPolicy : GroupObjectTransmitPolicy := {}
  rawValue : List UInt8 := []
  isValid : Bool := false
  lastSentRaw : List UInt8 := []
  lastSentValid : Bool := false
  lastSentMs : UInt32 := 0
  pendingSend : Bool := false

namespace GroupObject

/-- `transmit`. -/
def transmit (object : GroupObject) : Bool := object.communication && object.transmitEnable

/-- `storeGroupObjectValue`; nothing when the value is too long. -/
def storeGroupObjectValue (object : GroupObject) (data : List UInt8) : Option GroupObject :=
  if maxGroupObjectPayloadBytes < data.length then none
  else some { object with rawValue := data, isValid := true }

/-- `changedSignificantly`. -/
def changedSignificantly (object : GroupObject) : Bool :=
  if !object.lastSentValid then true
  else if object.rawValue = object.lastSentRaw then false
  else
    match object.transmitPolicy.changeThreshold with
    | none => true
    | some significant => significant object.rawValue object.lastSentRaw

/-- `decidePublish`. -/
def decidePublish (object : GroupObject) (nowMs : UInt32) : PublishDecision :=
  if !object.lastSentValid then .send
  else if object.transmitPolicy.onChangeEnabled && !object.changedSignificantly then .suppress
  else if object.transmitPolicy.minIntervalMs ≠ 0
      ∧ nowMs - object.lastSentMs < object.transmitPolicy.minIntervalMs then .defer
  else .send

/-- `dueForCyclic`. -/
def dueForCyclic (object : GroupObject) (nowMs : UInt32) : Bool :=
  object.transmitPolicy.cyclicIntervalMs != 0 && object.lastSentValid
    && object.transmitPolicy.cyclicIntervalMs ≤ nowMs - object.lastSentMs

/-- `readyToSendDeferred`. -/
def readyToSendDeferred (object : GroupObject) (nowMs : UInt32) : Bool :=
  object.pendingSend
    && (object.transmitPolicy.minIntervalMs == 0 || !object.lastSentValid
      || object.transmitPolicy.minIntervalMs ≤ nowMs - object.lastSentMs)

/-- `setPendingSend(true)`. -/
def setPending (object : GroupObject) : GroupObject := { object with pendingSend := true }

/-- `noteTransmitted`. -/
def noteTransmitted (object : GroupObject) (nowMs : UInt32) : GroupObject :=
  { object with
    lastSentRaw := object.rawValue
    lastSentValid := true
    lastSentMs := nowMs
    pendingSend := false }

end GroupObject

/-! ## Sending -/

/-- The part of `BusAccessUnit` that sends for an object: whether it has a clock, whether the object
has a group address, and whether `emitGroupValueForObject` succeeds. `sent` has the telegrams. -/
structure GroupSender where
  object : GroupObject
  limiter : TelegramRateLimiter := {}
  haveClock : Bool := true
  linked : Bool := true
  emits : Bool := true
  sent : List (List UInt8 × Nat) := []

namespace GroupSender

/-- The clock of 32 bits. -/
def now (s : GroupSender) (t : Nat) : UInt32 := if s.haveClock then UInt32.ofNat t else 0

/-- `emitGroupValueForObject`, and `noteTransmitted` when it succeeds. -/
def emitGroupValue (s : GroupSender) (data : List UInt8) (t : Nat) : GroupSender :=
  if s.emits then
    { s with object := s.object.noteTransmitted (s.now t), sent := s.sent ++ [(data, t)] }
  else s

/-- The end of `sendGroupValueForObject`, where the policy lets the value pass. -/
def sendNow (s : GroupSender) (data : List UInt8) (t : Nat) : GroupSender :=
  if s.haveClock then
    let outcome := s.limiter.tryConsume (s.now t)
    let s := { s with limiter := outcome.2 }
    if outcome.1 then s.emitGroupValue data t else { s with object := s.object.setPending }
  else s.emitGroupValue data t

/-- `sendGroupValueForObject`. -/
def sendGroupValueForObject (s : GroupSender) (data : List UInt8) (t : Nat) : GroupSender :=
  if !s.linked then s
  else
    match s.object.decidePublish (s.now t) with
    | .suppress => s
    | .defer => if s.haveClock then { s with object := s.object.setPending } else s.sendNow data t
    | .send => s.sendNow data t

/-- `pumpGroupObjectTransmissions`, at this object. -/
def pumpGroupObjectTransmissions (s : GroupSender) (t : Nat) : GroupSender :=
  if !s.haveClock then s
  else if !s.object.transmit || !s.object.isValid then s
  else if !s.linked then s
  else if !s.object.dueForCyclic (s.now t) && !s.object.readyToSendDeferred (s.now t) then s
  else
    let outcome := s.limiter.tryConsume (s.now t)
    let s := { s with limiter := outcome.2 }
    if outcome.1 then s.emitGroupValue s.object.rawValue t else s

/-- What happens: the application has a new value, the loop pumps, or another object asks the
limiter. -/
inductive Call where
  | update (value : List UInt8)
  | pump
  | other

/-- A call at a time. The application sends the value that the object has stored. -/
def step (s : GroupSender) : Call × Nat → GroupSender
  | (.update value, t) =>
      match s.object.storeGroupObjectValue value with
      | none => s
      | some object => { s with object := object }.sendGroupValueForObject object.rawValue t
  | (.pump, t) => s.pumpGroupObjectTransmissions t
  | (.other, t) => { s with limiter := (s.limiter.tryConsume (s.now t)).2 }

end GroupSender

/-! ## What the policy says -/

namespace GroupObject

variable {object : GroupObject} {nowMs : UInt32}

theorem eq_of_decidePublish_suppress (hthreshold : object.transmitPolicy.changeThreshold = none)
    (h : object.decidePublish nowMs = .suppress) :
    object.lastSentValid = true ∧ object.rawValue = object.lastSentRaw := by
  rw [decidePublish] at h
  split at h
  · cases h
  · rename_i hvalid
    have hlast : object.lastSentValid = true := by simpa using hvalid
    split at h
    · rename_i hunchanged
      rw [Bool.and_eq_true, Bool.not_eq_true', changedSignificantly, if_neg hvalid, hthreshold]
        at hunchanged
      by_cases heq : object.rawValue = object.lastSentRaw
      · exact ⟨hlast, heq⟩
      · rw [if_neg heq] at hunchanged
        exact absurd hunchanged.2 (by simp)
    · split at h <;> cases h

theorem of_decidePublish_defer (h : object.decidePublish nowMs = .defer)
    (hon : object.transmitPolicy.onChangeEnabled = true) : object.rawValue ≠ object.lastSentRaw := by
  rw [decidePublish] at h
  split at h
  · cases h
  · rename_i hvalid
    split at h
    · cases h
    · rename_i hchanged
      intro heq
      apply hchanged
      rw [hon, changedSignificantly, if_neg hvalid, if_pos heq]
      rfl

theorem of_decidePublish_send (h : object.decidePublish nowMs = .send)
    (hlast : object.lastSentValid = true) :
    (object.transmitPolicy.onChangeEnabled = true → object.rawValue ≠ object.lastSentRaw)
      ∧ (object.transmitPolicy.minIntervalMs = 0
        ∨ object.transmitPolicy.minIntervalMs ≤ nowMs - object.lastSentMs) := by
  rw [decidePublish, if_neg (by simp [hlast])] at h
  split at h
  · cases h
  · rename_i hchanged
    split at h
    · cases h
    · rename_i hinterval
      constructor
      · rintro hon heq
        apply hchanged
        rw [hon, changedSignificantly, if_neg (by simp [hlast]), if_pos heq]
        rfl
      · by_cases hzero : object.transmitPolicy.minIntervalMs = 0
        · exact .inl hzero
        · exact .inr (UInt32.not_lt.mp fun hlt => hinterval ⟨hzero, hlt⟩)

theorem of_readyToSendDeferred (h : object.readyToSendDeferred nowMs = true)
    (hlast : object.lastSentValid = true) :
    object.transmitPolicy.minIntervalMs = 0
      ∨ object.transmitPolicy.minIntervalMs ≤ nowMs - object.lastSentMs := by
  simp only [readyToSendDeferred, hlast, Bool.and_eq_true, Bool.not_true, Bool.or_false,
    Bool.or_eq_true, beq_iff_eq, decide_eq_true_eq] at h
  exact h.2

end GroupObject

namespace GroupSender

/-! ## What a run keeps -/

/-- The calls of a domain: a linked object that sends, with a clock, and telegrams that go out. -/
structure Serves (policy : GroupObjectTransmitPolicy) (s : GroupSender) : Prop where
  haveClock : s.haveClock = true
  linked : s.linked = true
  emits : s.emits = true
  transmit : s.object.transmit = true
  transmitPolicy : s.object.transmitPolicy = policy

/-- The object knows the last telegram, and the telegrams keep the policy. -/
structure Logged (policy : GroupObjectTransmitPolicy) (s : GroupSender) : Prop
    extends Serves policy s where
  unsent : s.sent.getLast? = none → s.object.lastSentValid = false
  last : ∀ x ∈ s.sent.getLast?, s.object.lastSentValid = true ∧ s.object.lastSentRaw = x.1
    ∧ s.object.lastSentMs = UInt32.ofNat x.2
  spaced : s.sent.IsChain fun x y => x.2 + policy.minIntervalMs.toNat ≤ y.2

/-- With send-on-change the telegrams differ from one to the next, and what is pending differs from the
last one. -/
structure Moved (policy : GroupObjectTransmitPolicy) (s : GroupSender) : Prop where
  changed : policy.onChangeEnabled = true → s.sent.IsChain fun x y => x.1 ≠ y.1
  pending : policy.onChangeEnabled = true → s.object.pendingSend = true →
    ∀ x ∈ s.sent.getLast?, x.1 ≠ s.object.rawValue

/-- A stored value that was not the last one sent is pending. -/
def NotLost (s : GroupSender) : Prop :=
  s.object.isValid = true → s.sent.getLast?.map (·.1) ≠ some s.object.rawValue →
    s.object.pendingSend = true

/-- The telegrams so far were sent before a time, and on the same turn of the clock. -/
def Before (s : GroupSender) (t : Nat) : Prop := ∀ x ∈ s.sent, x.2 ≤ t ∧ t < x.2 + 2 ^ 31

variable {policy : GroupObjectTransmitPolicy} {s : GroupSender} {t : Nat}

theorem Serves.now_eq (h : Serves policy s) (t : Nat) : s.now t = UInt32.ofNat t :=
  if_pos h.haveClock

theorem Logged.interval_over (h : Logged policy s) (hbefore : s.Before t)
    (hover : policy.minIntervalMs = 0 ∨ policy.minIntervalMs ≤ s.now t - s.object.lastSentMs)
    {x : List UInt8 × Nat} (hx : x ∈ s.sent.getLast?) :
    x.2 + policy.minIntervalMs.toNat ≤ t := by
  obtain ⟨hle, hlt⟩ := hbefore x (List.mem_of_getLast? hx)
  rcases hover with hzero | hover
  · rw [hzero]
    exact hle
  · rw [h.now_eq, (h.last x hx).2.2] at hover
    have htoNat := UInt32.le_iff_toNat_le.mp hover
    rw [Metered.elapsed_eq hle (by omega)] at htoNat
    omega

/-- With a link that takes every telegram, the object notes what was sent and the log grows by it. -/
theorem Serves.emit_eq (h : Serves policy s) (t : Nat) :
    s.emitGroupValue s.object.rawValue t
      = { s with
          object := s.object.noteTransmitted (s.now t)
          sent := s.sent ++ [(s.object.rawValue, t)] } := if_pos h.emits

theorem Logged.emit (h : Logged policy s)
    (hspaced : ∀ x ∈ s.sent.getLast?, x.2 + policy.minIntervalMs.toNat ≤ t) :
    Logged policy (s.emitGroupValue s.object.rawValue t)
      ∧ (s.emitGroupValue s.object.rawValue t).NotLost := by
  rw [h.emit_eq]
  constructor
  · refine ⟨⟨h.haveClock, h.linked, h.emits, h.transmit, h.transmitPolicy⟩, ?_, ?_, ?_⟩
    · intro hnone
      simp at hnone
    · intro x hx
      rw [List.getLast?_append, List.getLast?_singleton, Option.some_or, Option.mem_some_iff] at hx
      subst hx
      exact ⟨rfl, rfl, h.now_eq t⟩
    · refine List.isChain_append.mpr ⟨h.spaced, List.isChain_singleton _, ?_⟩
      rintro x hx y hy
      rw [List.head?_cons, Option.mem_some_iff] at hy
      subst hy
      exact hspaced x hx
  · intro _ hne
    simp [GroupObject.noteTransmitted] at hne

theorem Moved.emit (h : Moved policy s) (hs : Serves policy s)
    (hchanged : policy.onChangeEnabled = true → ∀ x ∈ s.sent.getLast?, x.1 ≠ s.object.rawValue) :
    Moved policy (s.emitGroupValue s.object.rawValue t) := by
  rw [hs.emit_eq]
  refine ⟨?_, fun _ hpending => by cases hpending⟩
  intro hon
  refine List.isChain_append.mpr ⟨h.changed hon, List.isChain_singleton _, ?_⟩
  rintro x hx y hy
  rw [List.head?_cons, Option.mem_some_iff] at hy
  subst hy
  exact hchanged hon x hx

theorem Logged.setPending (h : Logged policy s) :
    Logged policy { s with object := s.object.setPending }
      ∧ ({ s with object := s.object.setPending } : GroupSender).NotLost :=
  ⟨⟨⟨h.haveClock, h.linked, h.emits, h.transmit, h.transmitPolicy⟩, h.unsent, h.last, h.spaced⟩,
    fun _ _ => rfl⟩

theorem Logged.withLimiter (h : Logged policy s) (limiter : TelegramRateLimiter) :
    Logged policy { s with limiter := limiter } :=
  ⟨⟨h.haveClock, h.linked, h.emits, h.transmit, h.transmitPolicy⟩, h.unsent, h.last, h.spaced⟩

theorem Logged.sendNow (h : Logged policy s)
    (hspaced : ∀ x ∈ s.sent.getLast?, x.2 + policy.minIntervalMs.toNat ≤ t) :
    Logged policy (s.sendNow s.object.rawValue t) ∧ (s.sendNow s.object.rawValue t).NotLost := by
  rw [GroupSender.sendNow, if_pos h.haveClock]
  have hlimited := h.withLimiter (s.limiter.tryConsume (s.now t)).2
  dsimp only
  by_cases htoken : (s.limiter.tryConsume (s.now t)).1 = true
  · rw [if_pos htoken]
    exact hlimited.emit hspaced
  · rw [if_neg htoken]
    exact hlimited.setPending

theorem Moved.sendNow (h : Moved policy s) (hs : Logged policy s)
    (hchanged : policy.onChangeEnabled = true → ∀ x ∈ s.sent.getLast?, x.1 ≠ s.object.rawValue) :
    Moved policy (s.sendNow s.object.rawValue t) := by
  rw [GroupSender.sendNow, if_pos hs.haveClock]
  have hlimited := hs.withLimiter (s.limiter.tryConsume (s.now t)).2
  have hmoved : Moved policy { s with limiter := (s.limiter.tryConsume (s.now t)).2 } :=
    ⟨h.changed, h.pending⟩
  dsimp only
  by_cases htoken : (s.limiter.tryConsume (s.now t)).1 = true
  · rw [if_pos htoken]
    exact hmoved.emit hlimited.toServes hchanged
  · rw [if_neg htoken]
    exact ⟨h.changed, fun hon _ => hchanged hon⟩

theorem Logged.update (h : Logged policy s) (hthreshold : policy.changeThreshold = none)
    (hbefore : s.Before t) :
    Logged policy (s.sendGroupValueForObject s.object.rawValue t)
      ∧ (s.sendGroupValueForObject s.object.rawValue t).NotLost := by
  have hpolicy := h.transmitPolicy
  rw [sendGroupValueForObject, if_neg (by simp [h.linked])]
  cases hdecision : s.object.decidePublish (s.now t) with
  | suppress =>
    -- An update is suppressed only when it is the value that was sent last.
    obtain ⟨hvalid, heq⟩ :=
      GroupObject.eq_of_decidePublish_suppress (by rw [hpolicy, hthreshold]) hdecision
    refine ⟨h, fun _ hne => ?_⟩
    cases hsent : s.sent.getLast? with
    | none => exact absurd hvalid (by simp [h.unsent hsent])
    | some x =>
      rw [hsent, Option.map_some, heq, (h.last x (by simp [hsent])).2.1] at hne
      exact absurd rfl hne
  | defer =>
    dsimp only
    rw [if_pos h.haveClock]
    exact h.setPending
  | send =>
    apply h.sendNow
    intro x hx
    obtain ⟨-, hover⟩ := GroupObject.of_decidePublish_send hdecision (h.last x hx).1
    rw [hpolicy] at hover
    exact h.interval_over hbefore hover hx

theorem Moved.update (h : Moved policy s) (hs : Logged policy s) :
    Moved policy (s.sendGroupValueForObject s.object.rawValue t) := by
  have hpolicy := hs.transmitPolicy
  rw [sendGroupValueForObject, if_neg (by simp [hs.linked])]
  cases hdecision : s.object.decidePublish (s.now t) with
  | suppress => exact h
  | defer =>
    dsimp only
    rw [if_pos hs.haveClock]
    refine ⟨h.changed, fun hon _ x hx heq => ?_⟩
    have hchanged := GroupObject.of_decidePublish_defer hdecision (hpolicy ▸ hon)
    exact hchanged (heq.symm.trans (hs.last x hx).2.1.symm)
  | send =>
    apply h.sendNow hs
    intro hon x hx heq
    obtain ⟨hvalid, hraw, -⟩ := hs.last x hx
    obtain ⟨hchanged, -⟩ := GroupObject.of_decidePublish_send hdecision hvalid
    rw [hpolicy] at hchanged
    exact hchanged hon (heq.symm.trans hraw.symm)

theorem Logged.pump_cases (h : Logged policy s) (hcyclic : policy.cyclicIntervalMs = 0) :
    s.pumpGroupObjectTransmissions t = s
      ∨ (s.object.readyToSendDeferred (s.now t) = true
        ∧ s.pumpGroupObjectTransmissions t
          = if (s.limiter.tryConsume (s.now t)).1 then
              { s with limiter := (s.limiter.tryConsume (s.now t)).2 }.emitGroupValue
                s.object.rawValue t
            else { s with limiter := (s.limiter.tryConsume (s.now t)).2 }) := by
  have hnever : s.object.dueForCyclic (s.now t) = false := by
    rw [GroupObject.dueForCyclic, h.transmitPolicy, hcyclic]
    rfl
  rw [pumpGroupObjectTransmissions, if_neg (by simp [h.haveClock]), hnever]
  split
  · exact .inl rfl
  rw [if_neg (by simp [h.linked])]
  split
  · exact .inl rfl
  · rename_i hready
    exact .inr ⟨by simpa using hready, rfl⟩

theorem Logged.pump (h : Logged policy s) (hlost : s.NotLost) (hcyclic : policy.cyclicIntervalMs = 0)
    (hbefore : s.Before t) :
    Logged policy (s.pumpGroupObjectTransmissions t)
      ∧ (s.pumpGroupObjectTransmissions t).NotLost := by
  rcases h.pump_cases (t := t) hcyclic with hsame | ⟨hdeferred, hreleased⟩
  · rw [hsame]
    exact ⟨h, hlost⟩
  · rw [hreleased]
    split
    · apply (h.withLimiter _).emit
      intro x hx
      have hover := GroupObject.of_readyToSendDeferred hdeferred (h.last x hx).1
      rw [h.transmitPolicy] at hover
      exact h.interval_over hbefore hover hx
    · exact ⟨h.withLimiter _, hlost⟩

/-- The pump looks at the interval and not at the value, which has moved while it was pending. -/
theorem Moved.pump (h : Moved policy s) (hs : Logged policy s) (hcyclic : policy.cyclicIntervalMs = 0) :
    Moved policy (s.pumpGroupObjectTransmissions t) := by
  rcases hs.pump_cases (t := t) hcyclic with hsame | ⟨hdeferred, hreleased⟩
  · rw [hsame]
    exact h
  · have hmoved : Moved policy { s with limiter := (s.limiter.tryConsume (s.now t)).2 } :=
      ⟨h.changed, h.pending⟩
    rw [hreleased]
    split
    · have hpending : s.object.pendingSend = true := (Bool.and_eq_true_iff.mp hdeferred).1
      exact hmoved.emit (hs.withLimiter _).toServes fun hon => h.pending hon hpending
    · exact hmoved

/-! ## Runs -/

theorem sent_emitGroupValue (s : GroupSender) (data : List UInt8) (t : Nat) :
    (s.emitGroupValue data t).sent = s.sent ∨ (s.emitGroupValue data t).sent = s.sent ++ [(data, t)] := by
  rw [emitGroupValue]
  split
  · exact .inr rfl
  · exact .inl rfl

theorem sent_sendNow (s : GroupSender) (data : List UInt8) (t : Nat) :
    (s.sendNow data t).sent = s.sent ∨ (s.sendNow data t).sent = s.sent ++ [(data, t)] := by
  rw [sendNow]
  split
  · dsimp only
    split
    · exact sent_emitGroupValue _ data t
    · exact .inl rfl
  · exact sent_emitGroupValue s data t

theorem sent_step (s : GroupSender) (call : Call) (t : Nat) :
    (s.step (call, t)).sent = s.sent ∨ ∃ data, (s.step (call, t)).sent = s.sent ++ [(data, t)] := by
  cases call with
  | update value =>
    rw [step]
    cases s.object.storeGroupObjectValue value with
    | none => exact .inl rfl
    | some object =>
      dsimp only
      rw [sendGroupValueForObject]
      split
      · exact .inl rfl
      · split
        · exact .inl rfl
        · split
          · exact .inl rfl
          · exact (sent_sendNow _ _ t).imp_right fun h => ⟨_, h⟩
        · exact (sent_sendNow _ _ t).imp_right fun h => ⟨_, h⟩
  | pump =>
    rw [step, pumpGroupObjectTransmissions]
    split
    · exact .inl rfl
    split
    · exact .inl rfl
    split
    · exact .inl rfl
    split
    · exact .inl rfl
    · dsimp only
      split
      · exact (sent_emitGroupValue _ _ t).imp_right fun h => ⟨_, h⟩
      · exact .inl rfl
  | other => exact .inl rfl

/-- With send-on-change, no update that is stored goes back to the value that was sent last while one is
pending. -/
def Onward (s : GroupSender) : Call × Nat → Prop
  | (.update value, _) =>
      s.object.transmitPolicy.onChangeEnabled = true → s.object.pendingSend = true →
        value.length ≤ maxGroupObjectPayloadBytes →
        ¬ (s.object.lastSentValid = true ∧ value = s.object.lastSentRaw)
  | _ => True

/-- The calls come in order, within `2 ^ 31` milliseconds. -/
def InTime (calls : List (Call × Nat)) : Prop :=
  calls.Pairwise fun a b => a.2 ≤ b.2 ∧ b.2 < a.2 + 2 ^ 31

instance (calls : List (Call × Nat)) : Decidable (InTime calls) :=
  inferInstanceAs (Decidable (calls.Pairwise _))

theorem Logged.store (h : Logged policy s) (value : List UInt8) :
    Logged policy { s with object := { s.object with rawValue := value, isValid := true } } :=
  ⟨⟨h.haveClock, h.linked, h.emits, h.transmit, h.transmitPolicy⟩, h.unsent, h.last, h.spaced⟩

theorem Logged.step (h : Logged policy s) (hlost : s.NotLost)
    (hthreshold : policy.changeThreshold = none) (hcyclic : policy.cyclicIntervalMs = 0)
    (call : Call × Nat) (hbefore : s.Before call.2) :
    Logged policy (s.step call) ∧ (s.step call).NotLost := by
  obtain ⟨call, t⟩ := call
  cases call with
  | update value =>
    rw [GroupSender.step, GroupObject.storeGroupObjectValue]
    by_cases hlong : maxGroupObjectPayloadBytes < value.length
    · rw [if_pos hlong]
      exact ⟨h, hlost⟩
    · rw [if_neg hlong]
      exact (h.store value).update hthreshold hbefore
  | pump => exact h.pump hlost hcyclic hbefore
  | other => exact ⟨h.withLimiter _, hlost⟩

theorem Moved.step (h : Moved policy s) (hs : Logged policy s)
    (hcyclic : policy.cyclicIntervalMs = 0) (call : Call × Nat) (honward : s.Onward call) :
    Moved policy (s.step call) := by
  obtain ⟨call, t⟩ := call
  cases call with
  | update value =>
    rw [GroupSender.step, GroupObject.storeGroupObjectValue]
    by_cases hlong : maxGroupObjectPayloadBytes < value.length
    · rw [if_pos hlong]
      exact h
    · rw [if_neg hlong]
      refine Moved.update ⟨h.changed, ?_⟩ (hs.store value)
      intro hon hpending x hx heq
      obtain ⟨hvalid, hraw, -⟩ := hs.last x hx
      apply honward (hs.transmitPolicy ▸ hon) hpending (Nat.not_lt.mp hlong)
      exact ⟨hvalid, heq.symm.trans hraw.symm⟩
  | pump => exact h.pump hs hcyclic
  | other => exact ⟨h.changed, h.pending⟩

theorem logged_run (hthreshold : policy.changeThreshold = none) (hcyclic : policy.cyclicIntervalMs = 0)
    (calls : List (Call × Nat)) :
    ∀ {s : GroupSender}, Logged policy s → s.NotLost → InTime calls →
      (∀ call ∈ calls, s.Before call.2) →
      Logged policy (run step s calls) ∧ (run step s calls).NotLost
        ∧ (Moved policy s → Along step Onward s calls → Moved policy (run step s calls)) := by
  induction calls with
  | nil => exact fun hs hlost _ _ => ⟨hs, hlost, fun hmoved _ => hmoved⟩
  | cons call calls ih =>
    intro s hs hlost htime hbefore
    obtain ⟨hfirst, hrest⟩ := List.pairwise_cons.mp htime
    obtain ⟨hs', hlost'⟩ := hs.step hlost hthreshold hcyclic call (hbefore call List.mem_cons_self)
    have hbefore' : ∀ later ∈ calls, (s.step call).Before later.2 := by
      -- a telegram of this call was sent before the calls that follow
      intro later hlater x hx
      have hold := hbefore later (List.mem_cons_of_mem _ hlater)
      obtain hsame | ⟨data, hmore⟩ := sent_step s call.1 call.2
      · exact hold x (hsame ▸ hx)
      · rw [hmore] at hx
        rcases List.mem_append.mp hx with hx | hx
        · exact hold x hx
        · rw [List.mem_singleton.mp hx]
          exact hfirst later hlater
    obtain ⟨hrun, hnot, hmoved⟩ := ih hs' hlost' hrest hbefore'
    exact ⟨hrun, hnot, fun h honward =>
      hmoved (h.step hs hcyclic call honward.1) honward.2⟩

/-- What is asked of the telegrams in time: (b) they keep the interval, and (c) a stored value that was
not sent last is pending, and a pump sends it once the interval is over and the limiter has a telegram
free. -/
structure Paced (policy : GroupObjectTransmitPolicy) (s : GroupSender) : Prop where
  spaced : s.sent.IsChain fun x y => x.2 + policy.minIntervalMs.toNat ≤ y.2
  pending : s.object.isValid = true → s.sent.getLast?.map (·.1) ≠ some s.object.rawValue →
    s.object.pendingSend = true
  released : s.object.isValid = true → s.sent.getLast?.map (·.1) ≠ some s.object.rawValue →
    ∀ t, s.Before t → (∀ x ∈ s.sent.getLast?, x.2 + policy.minIntervalMs.toNat ≤ t) →
      (s.limiter.tryConsume (s.now t)).1 = true →
        (s.step (.pump, t)).sent = s.sent ++ [(s.object.rawValue, t)]

/-- All that is asked: also (a) with send-on-change they differ from one to the next. -/
structure Shaped (policy : GroupObjectTransmitPolicy) (s : GroupSender) : Prop
    extends Paced policy s where
  changed : policy.onChangeEnabled = true → s.sent.IsChain fun x y => x.1 ≠ y.1

theorem Logged.released (h : Logged policy s) (hvalid : s.object.isValid = true)
    (hpending : s.object.pendingSend = true) (hbefore : s.Before t)
    (hover : ∀ x ∈ s.sent.getLast?, x.2 + policy.minIntervalMs.toNat ≤ t)
    (htoken : (s.limiter.tryConsume (s.now t)).1 = true) :
    (s.step (.pump, t)).sent = s.sent ++ [(s.object.rawValue, t)] := by
  have hready : s.object.readyToSendDeferred (s.now t) = true := by
    rw [GroupObject.readyToSendDeferred, hpending, h.transmitPolicy]
    cases hsent : s.sent.getLast? with
    | none => simp [h.unsent hsent]
    | some x =>
      have hx : x ∈ s.sent.getLast? := by simp [hsent]
      obtain ⟨hle, hlt⟩ := hbefore x (List.mem_of_getLast? hx)
      -- The device's clock wraps, but not between the last telegram and this pump.
      have hinterval : policy.minIntervalMs ≤ s.now t - s.object.lastSentMs := by
        rw [UInt32.le_iff_toNat_le, h.now_eq, (h.last x hx).2.2, Metered.elapsed_eq hle (by omega)]
        have hgap := hover x hx
        omega
      simp [hinterval]
  rw [GroupSender.step, pumpGroupObjectTransmissions, if_neg (by simp [h.haveClock]),
    if_neg (by simp [h.transmit, hvalid]), if_neg (by simp [h.linked]), if_neg (by simp [hready])]
  dsimp only
  rw [if_pos htoken, emitGroupValue]
  dsimp only
  rw [if_pos h.emits]

/-- Runs that are shaped. With a clock, a link, a threshold of zero and no cyclic interval, and
telegrams that all go out: every run keeps the interval and loses no update, and the telegrams of a run
in which no update goes back while one is pending are all as asked. -/
theorem shaped_run {s : GroupSender} (hs : Serves policy s) (hsent : s.sent = [])
    (hfresh : s.object.lastSentValid = false) (hinvalid : s.object.isValid = false)
    (hthreshold : policy.changeThreshold = none) (hcyclic : policy.cyclicIntervalMs = 0)
    {calls : List (Call × Nat)} (htime : InTime calls) :
    Paced policy (run step s calls)
      ∧ (Along step Onward s calls → Shaped policy (run step s calls)) := by
  -- The log is empty at the start, so the invariant holds of it.
  have hlogged : Logged policy s := by
    refine ⟨hs, fun _ => hfresh, ?_, ?_⟩
    · intro x hx
      simp [hsent] at hx
    · rw [hsent]
      exact List.isChain_nil
  have hmoved : Moved policy s := by
    refine ⟨?_, ?_⟩
    · intro _
      rw [hsent]
      exact List.isChain_nil
    · intro _ _ x hx
      simp [hsent] at hx
  have hbefore : ∀ call ∈ calls, s.Before call.2 := by
    intro call _ x hx
    simp [hsent] at hx
  have hlost : s.NotLost := fun hvalid => absurd hvalid (by simp [hinvalid])
  obtain ⟨hrun, hnot, hkept⟩ := logged_run hthreshold hcyclic calls hlogged hlost htime hbefore
  have hpaced : Paced policy (run step s calls) :=
    ⟨hrun.spaced, hnot, fun hvalid hne t hafter hover htoken =>
      hrun.released hvalid (hnot hvalid hne) hafter hover htoken⟩
  exact ⟨hpaced, fun honward => ⟨hpaced, (hkept hmoved honward).changed⟩⟩

/-- An object that sends on change and waits a second between telegrams. -/
def sensor : GroupSender :=
  { object := { transmitPolicy := { onChangeEnabled := true, minIntervalMs := 1000 } } }

/-- Two readings, the second of which waits for the pump, and the first one again. -/
theorem shaped_run_two_readings :
    Shaped sensor.object.transmitPolicy
      (run step sensor [(.update [1], 0), (.update [2], 10), (.pump, 2000), (.update [1], 4000)]) :=
  (shaped_run ⟨rfl, rfl, rfl, rfl, rfl⟩ rfl rfl rfl rfl rfl (by decide)).2
    ⟨fun _ _ _ => by decide, fun _ _ _ => by decide, trivial, fun _ _ _ => by decide, trivial⟩

/-- A reading is sent, another waits, and the first one comes again: it is suppressed, but the pump
sends it a second time. -/
theorem repeated_after_return :
    ¬ ∀ calls : List (Call × Nat), InTime calls →
      Shaped sensor.object.transmitPolicy (run step sensor calls) := by
  intro h
  have hchain := (h [(.update [1], 0), (.update [2], 10), (.update [1], 20), (.pump, 2000)]
    (by decide)).changed rfl
  have hsent : (run step sensor
      [(.update [1], 0), (.update [2], 10), (.update [1], 20), (.pump, 2000)]).sent
      = [([1], 0), ([1], 2000)] := by rfl
  rw [hsent] at hchain
  exact absurd hchain (by decide)

end GroupSender

end KnxStack.Bau.TransmitShaping
