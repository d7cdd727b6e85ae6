import KnxStack.Physical.BitBangDriver
import KnxStack.Lib.Runs

/-!
# Progress of the driver

Two state machines share one hardware alarm: the transmitter and the receiver of `Driver` each have a
deadline of their own, and each handler may set or cancel the other's. The runs here are any
interleaving of `send`, edges and alarms, with an alarm handled at any time after it was due.

- `TxSound` says what the transmitter is doing with the frame it was given, state by state; the
  handlers keep it (`txSound_processTxTimer`, `txSound_processRxTimer`).
- `driver_progress`: what is not idle has an alarm pending, the hardware is armed for the earlier one,
  and every frame that is accepted gets exactly one outcome before the next one is.
-/

set_option autoImplicit false

namespace KnxStack.Physical

open KnxStack.Lib

/-! ## Messages about a frame -/

/-- Messages that tell what became of a frame. -/
def Message.isTx : Message → Bool
  | .collision => true
  | .txComplete => true
  | .txAckResponse _ => true
  | _ => false

/-- `TxComplete` and `TxAckResponse`, the outcomes of a frame. -/
def Message.isOutcome : Message → Bool
  | .txComplete => true
  | .txAckResponse _ => true
  | _ => false

/-- The messages about frames that were queued from some place on. -/
def queuedTx (mark : Nat) (messages : List Message) : List Message :=
  (messages.drop mark).filter Message.isTx

/-- Whether the driver waits for an acknowledgement of the frame. -/
def frameExpectsAck (frame : List UInt8) : Bool :=
  ({ txBuffer := frame, txTelegramLength := frame.length } : Driver).txFrameExpectsAck

/-- How a frame ended: all octets were on the bus, with an answer awaited or not, or another sender
won the arbitration. -/
inductive Settled (frame onBus : List UInt8) : List Message → Prop
  | completed : onBus = frame → frameExpectsAck frame = false → Settled frame onBus [.txComplete]
  | answered (octet : UInt8) : onBus = frame → frameExpectsAck frame = true →
      Settled frame onBus [.txAckResponse octet]
  | collided : onBus.length < frame.length →
      Settled frame onBus [.collision, .txAckResponse ackByteBusy]

theorem Settled.outcomes {frame onBus : List UInt8} {messages : List Message}
    (h : Settled frame onBus messages) : (messages.filter Message.isOutcome).length = 1 := by
  cases h <;> rfl

theorem queuedTx_append {mark : Nat} {messages : List Message} (hmark : mark ≤ messages.length)
    (more : List Message) :
    queuedTx mark (messages ++ more) = queuedTx mark messages ++ more.filter Message.isTx := by
  rw [queuedTx, List.drop_append_of_le_length hmark, List.filter_append, queuedTx]

/-! ## The transmitter -/

section TxSound

variable (frame : Option (List UInt8)) (mark : Nat) (onBus : List UInt8)

/-- No frame is under way, and the last one that was accepted has its outcome. -/
structure Rested (length : Nat) (messages : List Message) : Prop where
  empty : length = 0
  marked : mark ≤ messages.length
  settled : (frame = none ∧ queuedTx mark messages = [])
    ∨ ∃ octets, frame = some octets ∧ Settled octets onBus (queuedTx mark messages)

/-- A frame is under way and has no outcome yet. -/
structure UnderWay (length : Nat) (buffer : List UInt8) (messages : List Message) : Prop where
  accepted : frame = some buffer
  whole : length = buffer.length
  nonempty : 0 < length
  marked : mark ≤ messages.length
  silent : queuedTx mark messages = []

/-- Nothing is under way, or a frame of which no octet was sent. -/
def NotStarted (length : Nat) (buffer : List UInt8) (messages : List Message) : Prop :=
  Rested frame mark onBus length messages ∨ UnderWay frame mark length buffer messages ∧ onBus = []

/-- The octets before the current one were sent. -/
structure Sending (length : Nat) (buffer : List UInt8) (messages : List Message)
    (bytePosition : Nat) (current : UInt8) : Prop where
  underWay : UnderWay frame mark length buffer messages
  inside : bytePosition < length
  sent : onBus = buffer.take bytePosition
  now : current = buffer.getD bytePosition 0

/-- All octets were sent, and an answer is awaited. -/
structure Awaiting (length : Nat) (messages : List Message) : Prop where
  accepted : frame = some onBus
  expected : frameExpectsAck onBus = true
  empty : length = 0
  marked : mark ≤ messages.length
  silent : queuedTx mark messages = []

/-- A character is driven: of an acknowledgement for a telegram that was received, or of the frame. -/
def Character (d : Driver) : Prop :=
  if d.sendingAck then NotStarted frame mark onBus d.txTelegramLength d.txBuffer d.messages
  else Sending frame mark onBus d.txTelegramLength d.txBuffer d.messages d.txBytePosition
    d.txCurrentByte

/-- What the transmitter does with the last frame that was accepted. -/
def TxSound (d : Driver) : Prop :=
  match d.txState with
  | .idle => d.sendingAck = false ∧ Rested frame mark onBus d.txTelegramLength d.messages
  | .waitingSlot => NotStarted frame mark onBus d.txTelegramLength d.txBuffer d.messages
      ∧ (d.sendingAck = false → 0 < d.txTelegramLength)
  | .waitingAck => d.sendingAck = false ∧ Awaiting frame mark onBus d.txTelegramLength d.messages
  | _ => (-1 ≤ d.txBitPosition ∧ d.txBitPosition ≤ 9) ∧ Character frame mark onBus d

end TxSound

/-- The receiver samples a bit that a character has. -/
def RxSound (d : Driver) : Prop :=
  d.rxState = .receive → -1 ≤ d.rxBitPosition ∧ d.rxBitPosition ≤ 9

section Messages

variable {frame : Option (List UInt8)} {mark : Nat} {onBus : List UInt8} {length : Nat}
  {buffer : List UInt8} {messages : List Message}

theorem queuedTx_append_other (hmark : mark ≤ messages.length) {message : Message}
    (h : message.isTx = false) : queuedTx mark (messages ++ [message]) = queuedTx mark messages := by
  rw [queuedTx_append hmark, List.filter_cons_of_neg (by simp [h]), List.filter_nil, List.append_nil]

theorem Rested.append (h : Rested frame mark onBus length messages) {message : Message}
    (hother : message.isTx = false) : Rested frame mark onBus length (messages ++ [message]) := by
  refine ⟨h.empty, ?_, ?_⟩
  · rw [List.length_append]
    exact Nat.le_add_right_of_le h.marked
  · rw [queuedTx_append_other h.marked hother]
    exact h.settled

theorem UnderWay.append (h : UnderWay frame mark length buffer messages) {message : Message}
    (hother : message.isTx = false) :
    UnderWay frame mark length buffer (messages ++ [message]) := by
  refine ⟨h.accepted, h.whole, h.nonempty, ?_, ?_⟩
  · rw [List.length_append]
    exact Nat.le_add_right_of_le h.marked
  · rw [queuedTx_append_other h.marked hother]
    exact h.silent

theorem NotStarted.append (h : NotStarted frame mark onBus length buffer messages)
    {message : Message} (hother : message.isTx = false) :
    NotStarted frame mark onBus length buffer (messages ++ [message]) := by
  rcases h with hrested | ⟨hunder, hnone⟩
  · exact .inl (hrested.append hother)
  · exact .inr ⟨hunder.append hother, hnone⟩

theorem Awaiting.append (h : Awaiting frame mark onBus length messages) {message : Message}
    (hother : message.isTx = false) : Awaiting frame mark onBus length (messages ++ [message]) := by
  refine ⟨h.accepted, h.expected, h.empty, ?_, ?_⟩
  · rw [List.length_append]
    exact Nat.le_add_right_of_le h.marked
  · rw [queuedTx_append_other h.marked hother]
    exact h.silent

theorem Awaiting.answered (h : Awaiting frame mark onBus length messages) (octet : UInt8) :
    Rested frame mark onBus length (messages ++ [.txAckResponse octet]) := by
  refine ⟨h.empty, ?_, .inr ⟨onBus, h.accepted, ?_⟩⟩
  · rw [List.length_append]
    exact Nat.le_add_right_of_le h.marked
  · rw [queuedTx_append h.marked, h.silent]
    exact .answered octet rfl h.expected

theorem Sending.sentWhole {bytePosition : Nat} {current : UInt8}
    (h : Sending frame mark onBus length buffer messages bytePosition current)
    (hlast : length ≤ bytePosition + 1) : onBus ++ [current] = buffer := by
  have hlength := h.underWay.whole
  have hinside := h.inside
  have hindex : bytePosition < buffer.length := by omega
  rw [h.sent, h.now, List.getD_eq_getElem _ _ hindex, List.take_append_getElem,
    List.take_of_length_le (by omega)]

theorem Sending.last {bytePosition : Nat} {current : UInt8}
    (h : Sending frame mark onBus length buffer messages bytePosition current)
    (hlast : length ≤ bytePosition + 1) : frame = some (onBus ++ [current]) := by
  rw [h.sentWhole hlast]
  exact h.underWay.accepted

theorem Sending.completed {bytePosition : Nat} {current : UInt8}
    (h : Sending frame mark onBus length buffer messages bytePosition current)
    (hlast : length ≤ bytePosition + 1) (hnone : frameExpectsAck buffer = false) :
    Rested frame mark (onBus ++ [current]) 0 (messages ++ [.txComplete]) := by
  have hsame : onBus ++ [current] = buffer := h.sentWhole hlast
  refine ⟨rfl, ?_, .inr ⟨_, h.last hlast, ?_⟩⟩
  · rw [List.length_append]
    exact Nat.le_add_right_of_le h.underWay.marked
  · rw [queuedTx_append h.underWay.marked, h.underWay.silent]
    exact .completed rfl (hsame ▸ hnone)

theorem Sending.awaiting {bytePosition : Nat} {current : UInt8}
    (h : Sending frame mark onBus length buffer messages bytePosition current)
    (hlast : length ≤ bytePosition + 1) (hexpects : frameExpectsAck buffer = true) :
    Awaiting frame mark (onBus ++ [current]) 0 messages :=
  ⟨h.last hlast, h.sentWhole hlast ▸ hexpects, rfl, h.underWay.marked, h.underWay.silent⟩

theorem Sending.next {bytePosition : Nat} {current : UInt8}
    (h : Sending frame mark onBus length buffer messages bytePosition current)
    (hmore : ¬ length ≤ bytePosition + 1) :
    Sending frame mark (onBus ++ [current]) length buffer messages (bytePosition + 1)
      (buffer.getD (bytePosition + 1) 0) := by
  have hlength := h.underWay.whole
  have hindex : bytePosition < buffer.length := by omega
  refine ⟨h.underWay, by omega, ?_, rfl⟩
  rw [h.sent, h.now, List.getD_eq_getElem _ _ hindex, List.take_append_getElem]

theorem Sending.collided {bytePosition : Nat} {current : UInt8}
    (h : Sending frame mark onBus length buffer messages bytePosition current) :
    Rested frame mark onBus 0 (messages ++ [.collision] ++ [.txAckResponse ackByteBusy]) := by
  have hlength := h.underWay.whole
  have hinside := h.inside
  refine ⟨rfl, ?_, .inr ⟨buffer, h.underWay.accepted, ?_⟩⟩
  · rw [List.append_assoc, List.length_append]
    exact Nat.le_add_right_of_le h.underWay.marked
  · rw [List.append_assoc, queuedTx_append h.underWay.marked, h.underWay.silent]
    refine .collided ?_
    rw [h.sent, List.length_take]
    omega

end Messages

theorem TxSound.silent_or_settled {frame : Option (List UInt8)} {mark : Nat} {onBus : List UInt8}
    {d : Driver} (h : TxSound frame mark onBus d) : queuedTx mark d.messages = []
      ∨ ∃ octets, frame = some octets ∧ Settled octets onBus (queuedTx mark d.messages) := by
  have hrested : Rested frame mark onBus d.txTelegramLength d.messages → queuedTx mark d.messages = []
      ∨ ∃ octets, frame = some octets ∧ Settled octets onBus (queuedTx mark d.messages) := by
    intro hrested
    exact hrested.settled.imp_left And.right
  have hnotStarted : NotStarted frame mark onBus d.txTelegramLength d.txBuffer d.messages →
      queuedTx mark d.messages = []
        ∨ ∃ octets, frame = some octets ∧ Settled octets onBus (queuedTx mark d.messages) := by
    intro hnot
    rcases hnot with hrest | ⟨hunder, -⟩
    · exact hrested hrest
    · exact .inl hunder.silent
  unfold TxSound at h
  cases hstate : d.txState with
  | idle =>
    simp only [hstate] at h
    exact hrested h.2
  | waitingSlot =>
    simp only [hstate] at h
    exact hnotStarted h.1
  | waitingAck =>
    simp only [hstate] at h
    exact .inl h.2.silent
  | sendingZeroActive | sendingZeroEqualization | sendingOne =>
    simp only [hstate] at h
    have hcharacter := h.2
    unfold Character at hcharacter
    split at hcharacter
    · exact hnotStarted hcharacter
    · exact .inl hcharacter.underWay.silent

namespace Driver

variable {frame : Option (List UInt8)} {mark : Nat} {onBus : List UInt8} {d : Driver}

theorem txSound_queueMessage (h : TxSound frame mark onBus d) (message : Message)
    (hother : message.isTx = false) : TxSound frame mark onBus (d.queueMessage message) := by
  -- State by state, since each has its own account of the messages.
  unfold TxSound at h ⊢
  cases hstate : d.txState with
  | idle =>
    simp only [hstate, queueMessage] at h ⊢
    exact ⟨h.1, h.2.append hother⟩
  | waitingSlot =>
    simp only [hstate, queueMessage] at h ⊢
    exact ⟨h.1.append hother, h.2⟩
  | waitingAck =>
    simp only [hstate, queueMessage] at h ⊢
    exact ⟨h.1, h.2.append hother⟩
  | sendingZeroActive | sendingZeroEqualization | sendingOne =>
    simp only [hstate, queueMessage, Character] at h ⊢
    refine ⟨h.1, ?_⟩
    split
    · rename_i hack
      have hnot := h.2
      rw [if_pos hack] at hnot
      exact hnot.append hother
    · rename_i hack
      have hsending := h.2
      rw [if_neg hack] at hsending
      exact ⟨hsending.underWay.append hother, hsending.inside, hsending.sent, hsending.now⟩

/-! ## The alarm of the transmitter -/

/-- What a handler of the transmitter leaves: the delay is positive unless the transmitter is idle,
and the receiver is left alone or reset. -/
structure TxLeaves (frame : Option (List UInt8)) (mark : Nat) (onBus : List UInt8)
    (rxAlarmUs : Nat) (rxState : RxState) (rxBitPosition : Int) (r : Driver × Nat) : Prop where
  sound : TxSound frame mark onBus r.1
  pending : r.1.txState ≠ .idle → 0 < r.2
  rxAlarm : r.1.rxAlarmUs = rxAlarmUs
  receiver : r.1.rxState = .idle ∨ r.1.rxState = rxState ∧ r.1.rxBitPosition = rxBitPosition

/-- The same, for a handler that is called on `d`. -/
abbrev TxDone (frame : Option (List UInt8)) (mark : Nat) (onBus : List UInt8) (d : Driver) :
    Driver × Nat → Prop :=
  TxLeaves frame mark onBus d.rxAlarmUs d.rxState d.rxBitPosition

theorem bitTimeUs_pos : 0 < bitTimeUs := by decide

theorem zeroActiveTimeUs_pos : 0 < zeroActiveTimeUs := by decide

theorem txDone_sendBit (hleast : -1 ≤ d.txBitPosition) (hmost : d.txBitPosition ≤ 9)
    (h : Character frame mark onBus d) (bit : Bool) :
    TxDone frame mark onBus d (d.sendBit bit) := by
  unfold sendBit
  split
  · exact ⟨⟨⟨hleast, hmost⟩, h⟩, fun _ => bitTimeUs_pos, rfl, .inr ⟨rfl, rfl⟩⟩
  · exact ⟨⟨⟨hleast, hmost⟩, h⟩, fun _ => zeroActiveTimeUs_pos, rfl, .inr ⟨rfl, rfl⟩⟩

theorem rested_of_notStarted {length : Nat} {buffer : List UInt8} {messages : List Message}
    (h : NotStarted frame mark onBus length buffer messages) (hnone : ¬ 0 < length) :
    Rested frame mark onBus length messages := by
  rcases h with hrested | ⟨hunder, -⟩
  · exact hrested
  · exact absurd hunder.nonempty hnone

theorem underWay_of_notStarted {length : Nat} {buffer : List UInt8} {messages : List Message}
    (h : NotStarted frame mark onBus length buffer messages) (hsome : 0 < length) :
    UnderWay frame mark length buffer messages ∧ onBus = [] := by
  rcases h with hrested | hunder
  · exact absurd hrested.empty (by omega)
  · exact hunder

theorem txDone_endOfAck
    (h : NotStarted frame mark onBus d.txTelegramLength d.txBuffer d.messages) :
    TxDone frame mark onBus d d.endOfAck := by
  have hdone : NotStarted frame mark onBus d.txTelegramLength d.txBuffer
      (d.messages ++ [.dlAckDone d.dlAckEchoSeen]) := h.append rfl
  unfold endOfAck
  dsimp only
  split
  · rename_i hlength
    exact ⟨⟨hdone, fun _ => hlength⟩, fun _ => bitTimeUs_pos, rfl, .inl rfl⟩
  · rename_i hlength
    exact ⟨⟨rfl, rested_of_notStarted hdone hlength⟩, fun hidle => absurd rfl hidle, rfl, .inl rfl⟩

theorem txDone_endOfTxCharacter (hack : d.sendingAck = false)
    (hstate : d.txState = .sendingOne ∨ d.txState = .sendingZeroEqualization)
    (h : Sending frame mark onBus d.txTelegramLength d.txBuffer d.messages d.txBytePosition
      d.txCurrentByte) :
    TxDone frame mark (onBus ++ [d.txCurrentByte]) d d.endOfTxCharacter := by
  have hframe : d.txFrameExpectsAck = frameExpectsAck d.txBuffer := by
    unfold frameExpectsAck txFrameExpectsAck
    rw [h.underWay.whole]
  unfold endOfTxCharacter
  rw [if_neg (by simp [hack])]
  dsimp only
  split
  · rename_i hlast
    unfold endOfFrame
    dsimp only
    split
    · -- The answer is awaited; otherwise the frame is complete.
      rename_i hexpects
      exact ⟨⟨hack, h.awaiting hlast (hframe ▸ hexpects)⟩, fun _ => Nat.add_pos_left bitTimeUs_pos _,
        rfl, .inl rfl⟩
    · rename_i hnone
      exact ⟨⟨hack, h.completed hlast (hframe ▸ Bool.eq_false_iff.mpr hnone)⟩,
        fun hidle => absurd rfl hidle, rfl, .inl rfl⟩
  · -- Another octet of the frame follows.
    rename_i hmore
    have hcharacter : Character frame mark (onBus ++ [d.txCurrentByte])
        { d with
          txBytePosition := d.txBytePosition + 1, txBitPosition := -1
          txCurrentByte := d.txBuffer.getD (d.txBytePosition + 1) 0 } := by
      unfold Character
      rw [if_neg (by simp [hack])]
      exact h.next hmore
    refine ⟨?_, fun _ => Nat.add_pos_left bitTimeUs_pos _, rfl, .inr ⟨rfl, rfl⟩⟩
    rcases hstate with hone | hzero
    · simp only [TxSound, hone]
      exact ⟨by decide, hcharacter⟩
    · simp only [TxSound, hzero]
      exact ⟨by decide, hcharacter⟩

/-- The octets on the bus after the alarm of the transmitter: one more at a stop bit of the frame. -/
def carried (d : Driver) (onBus : List UInt8) : List UInt8 :=
  if (d.txState = .sendingOne ∨ d.txState = .sendingZeroEqualization) ∧ d.txBitPosition = 9
      ∧ d.sendingAck = false then onBus ++ [d.txCurrentByte]
  else onBus

theorem txDone_processEndOfTxBit_bit (hleast : -1 ≤ d.txBitPosition) (hmost : d.txBitPosition ≤ 8)
    (h : Character frame mark onBus d) (nowUs : Nat) :
    TxDone frame mark onBus d (d.processEndOfTxBit nowUs) := by
  unfold processEndOfTxBit
  split
  · rename_i hdata
    have hsent : Character frame mark onBus { d with txBitPosition := d.txBitPosition + 1 } := h
    exact txDone_sendBit (Int.le_add_one hleast) (Int.add_le_add_right hmost 1) hsent _
  · split
    · have hsent : Character frame mark onBus
          { d with lastCharStartUs := nowUs, txBitPosition := 0 } := h
      exact txDone_sendBit (show (-1 : Int) ≤ 0 by decide) (show (0 : Int) ≤ 9 by decide) hsent _
    · split
      · have hsent : Character frame mark onBus { d with txBitPosition := 9 } := h
        exact txDone_sendBit (show (-1 : Int) ≤ 9 by decide) (Int.le_refl 9) hsent _
      · rename_i hdata hstart hparity
        simp only [isDataBitPosition, Bool.and_eq_true, decide_eq_true_eq, not_and] at hdata
        omega

theorem txDone_processEndOfTxBit
    (hstate : d.txState = .sendingOne ∨ d.txState = .sendingZeroEqualization)
    (hleast : -1 ≤ d.txBitPosition) (hmost : d.txBitPosition ≤ 9)
    (h : Character frame mark onBus d) (nowUs : Nat) :
    TxDone frame mark (d.carried onBus) d (d.processEndOfTxBit nowUs) := by
  by_cases hstop : d.txBitPosition = 9
  · have hend : d.processEndOfTxBit nowUs = d.endOfTxCharacter := by
      unfold processEndOfTxBit
      rw [hstop]
      rfl
    rw [hend]
    cases hack : d.sendingAck with
    | true =>
      have hnot := h
      unfold Character at hnot
      rw [if_pos hack] at hnot
      have hcarried : d.carried onBus = onBus := by
        unfold carried
        rw [if_neg (by simp [hack])]
      rw [hcarried]
      unfold endOfTxCharacter
      rw [if_pos hack]
      exact txDone_endOfAck hnot
    | false =>
      have hsending := h
      unfold Character at hsending
      rw [if_neg (by simp [hack])] at hsending
      have hcarried : d.carried onBus = onBus ++ [d.txCurrentByte] := by
        unfold carried
        rw [if_pos ⟨hstate, hstop, hack⟩]
      rw [hcarried]
      exact txDone_endOfTxCharacter hack hstate hsending
  · have hcarried : d.carried onBus = onBus := by
      unfold carried
      rw [if_neg (fun hcase => hstop hcase.2.1)]
    rw [hcarried]
    exact txDone_processEndOfTxBit_bit hleast (by omega) h nowUs

theorem txDone_waitForBusIdle (hack : d.sendingAck = false) (hstate : d.txState = .waitingSlot)
    (h : UnderWay frame mark d.txTelegramLength d.txBuffer d.messages) (hnone : onBus = [])
    (nowUs : Nat) : TxDone frame mark onBus d (d.waitForBusIdle nowUs) := by
  have hwaiting : TxSound frame mark onBus d := by
    unfold TxSound
    simp only [hstate]
    exact ⟨.inr ⟨h, hnone⟩, fun _ => h.nonempty⟩
  unfold waitForBusIdle
  split
  · exact ⟨hwaiting, fun _ => bitTimeUs_pos, rfl, .inr ⟨rfl, rfl⟩⟩
  · split
    · have hfirst : Character frame mark onBus
          { d with txBitPosition := -1, txBytePosition := 0, txCurrentByte := d.txBuffer.getD 0 0 } := by
        unfold Character
        rw [if_neg (by simp [hack])]
        exact ⟨h, h.nonempty, hnone, rfl⟩
      exact txDone_processEndOfTxBit_bit (Int.le_refl (-1)) (show (-1 : Int) ≤ 8 by decide) hfirst
        nowUs
    · rename_i hearly
      refine ⟨hwaiting, fun _ => ?_, rfl, .inr ⟨rfl, rfl⟩⟩
      change 0 < d.lastCharStartUs + bitTimeUs * d.txWaitTime - nowUs
      omega

theorem txDone_txHandleWaitingSlot (hstate : d.txState = .waitingSlot)
    (h : NotStarted frame mark onBus d.txTelegramLength d.txBuffer d.messages)
    (hframe : d.sendingAck = false → 0 < d.txTelegramLength) (nowUs : Nat) :
    TxDone frame mark onBus d (d.txHandleWaitingSlot nowUs) := by
  unfold txHandleWaitingSlot
  split
  · rename_i hack
    dsimp only
    split
    · -- The acknowledgement starts; the frame behind it is untouched.
      let octet :=
        if d.dlAckRxErrors ≠ 0 then d.pendingAckByte &&& ~~~ackByteBusy else d.pendingAckByte
      let started : Driver := ({ d with
        pendingAckByte := 0, txCurrentByte := octet, dlAckEchoSeen := false, txBitPosition := -1
        txBytePosition := 0 }).queueMessage (.dlAckTxStart octet)
      have hcharacter : Character frame mark onBus started := by
        unfold Character
        rw [if_pos (show started.sendingAck = true from hack)]
        exact NotStarted.append h rfl
      have hdone : TxDone frame mark onBus started (started.processEndOfTxBit nowUs) :=
        txDone_processEndOfTxBit_bit (Int.le_refl (-1)) (show (-1 : Int) ≤ 8 by decide) hcharacter
          nowUs
      exact hdone
    · split
      · rename_i hlength
        refine ⟨⟨rfl, rested_of_notStarted h (by simpa using hlength)⟩,
          fun hidle => absurd rfl hidle, rfl, .inr ⟨rfl, rfl⟩⟩
      · rename_i hlength
        have hsome : 0 < d.txTelegramLength := Nat.pos_of_ne_zero hlength
        obtain ⟨hunder, hnone⟩ := underWay_of_notStarted h hsome
        have hdone := txDone_waitForBusIdle (d := { d with pendingAckByte := 0, sendingAck := false })
          rfl hstate hunder hnone nowUs
        exact hdone
  · rename_i hack
    have hack' : d.sendingAck = false := by simpa using hack
    obtain ⟨hunder, hnone⟩ := underWay_of_notStarted h (hframe hack')
    exact txDone_waitForBusIdle hack' hstate hunder hnone nowUs

theorem txDone_txHandleWaitingAck (hack : d.sendingAck = false)
    (h : Awaiting frame mark onBus d.txTelegramLength d.messages) :
    TxDone frame mark onBus d d.txHandleWaitingAck := by
  unfold txHandleWaitingAck
  dsimp only
  split
  · rename_i hidle
    exact ⟨⟨hack, h.answered ackByteNone⟩, fun hnot => absurd rfl hnot, rfl, .inl rfl⟩
  · exact ⟨⟨hack, h.answered ackByteNone⟩, fun hnot => absurd rfl hnot, rfl, .inr ⟨rfl, rfl⟩⟩

theorem txSound_processTxTimer (h : TxSound frame mark onBus d) (nowUs : Nat) (busDominant : Bool) :
    TxDone frame mark (d.carried onBus) d (d.processTxTimer nowUs busDominant) := by
  have hkept : d.txState ≠ .sendingOne → d.txState ≠ .sendingZeroEqualization →
      d.carried onBus = onBus := by
    intro hone hzero
    unfold carried
    rw [if_neg (by rintro ⟨hstate | hstate, -⟩ <;> contradiction)]
  unfold TxSound at h
  cases hstate : d.txState with
  | idle =>
    simp only [hstate] at h
    have hprocess : d.processTxTimer nowUs busDominant = (d, 0) := by
      simp only [processTxTimer, hstate]
    rw [hkept (by simp [hstate]) (by simp [hstate]), hprocess]
    refine ⟨?_, fun hnot => absurd hstate hnot, rfl, .inr ⟨rfl, rfl⟩⟩
    simp only [TxSound, hstate]
    exact h
  | waitingSlot =>
    simp only [hstate] at h
    have hprocess : d.processTxTimer nowUs busDominant = d.txHandleWaitingSlot nowUs := by
      simp only [processTxTimer, hstate]
    rw [hkept (by simp [hstate]) (by simp [hstate]), hprocess]
    exact txDone_txHandleWaitingSlot hstate h.1 h.2 nowUs
  | waitingAck =>
    simp only [hstate] at h
    have hprocess : d.processTxTimer nowUs busDominant = d.txHandleWaitingAck := by
      simp only [processTxTimer, hstate]
    rw [hkept (by simp [hstate]) (by simp [hstate]), hprocess]
    exact txDone_txHandleWaitingAck h.1 h.2
  | sendingZeroActive =>
    simp only [hstate] at h
    rw [hkept (by simp [hstate]) (by simp [hstate])]
    simp only [processTxTimer, hstate]
    exact ⟨h, fun _ => (by decide : 0 < zeroEqualizationTimeUs), rfl, .inr ⟨rfl, rfl⟩⟩
  | sendingOne =>
    simp only [hstate] at h
    have hprocess : d.processTxTimer nowUs busDominant
        = ({ d with dominant := false } : Driver).processEndOfTxBit nowUs := by
      simp only [processTxTimer, hstate]
    rw [hprocess]
    exact txDone_processEndOfTxBit (d := { d with dominant := false }) (.inl hstate) h.1.1 h.1.2 h.2
      nowUs
  | sendingZeroEqualization =>
    simp only [hstate] at h
    have hprocess : d.processTxTimer nowUs busDominant
        = ({ d with dominant := false } : Driver).processEndOfTxBit nowUs := by
      simp only [processTxTimer, hstate]
    rw [hprocess]
    exact txDone_processEndOfTxBit (d := { d with dominant := false }) (.inr hstate) h.1.1 h.1.2 h.2
      nowUs

/-! ## The alarm of the receiver -/

/-- What a handler of the receiver leaves: the delay is positive unless the receiver is idle, and the
transmitter is left alone, brought to rest, or armed for an acknowledgement. -/
structure RxLeaves (frame : Option (List UInt8)) (mark : Nat) (onBus : List UInt8)
    (txAlarmUs : Nat) (txState : TxState) (r : Driver × Nat) : Prop where
  sound : TxSound frame mark onBus r.1
  receiver : RxSound r.1
  pending : r.1.rxState ≠ .idle → 0 < r.2
  transmitter : r.1.txState = .idle ∨ (r.1.txAlarmUs = txAlarmUs ∧ r.1.txState = txState)
    ∨ (r.1.rxState = .idle ∧ r.1.txState = .waitingSlot ∧ 0 < r.2)

/-- The same, for a handler that is called on `d`. -/
abbrev RxDone (frame : Option (List UInt8)) (mark : Nat) (onBus : List UInt8) (d : Driver) :
    Driver × Nat → Prop :=
  RxLeaves frame mark onBus d.txAlarmUs d.txState

/-- What the octets of a header change: nothing for the transmitter, and not the receiver's state. -/
structure HeaderFollowed (frame : Option (List UInt8)) (mark : Nat) (onBus : List UInt8)
    (txAlarmUs : Nat) (txState : TxState) (d' : Driver) : Prop where
  sound : TxSound frame mark onBus d'
  txAlarm : d'.txAlarmUs = txAlarmUs
  txState : d'.txState = txState

theorem headerFollowed_arm (h : TxSound frame mark onBus d) (isGroupAddressed : Bool) :
    HeaderFollowed frame mark onBus d.txAlarmUs d.txState
      (d.armEarlyAckIfAddressed isGroupAddressed) := by
  have harmed : HeaderFollowed frame mark onBus d.txAlarmUs d.txState
      (({ d with pendingAckByte := if d.localBusy then ackByteBusy else ackByteAck }).queueMessage
        (.earlyAckArmed (if d.localBusy then ackByteBusy else ackByteAck))) :=
    ⟨txSound_queueMessage (d := { d with
      pendingAckByte := if d.localBusy then ackByteBusy else ackByteAck }) h _ rfl, rfl, rfl⟩
  unfold armEarlyAckIfAddressed
  dsimp only
  split
  · split
    · exact harmed
    · exact ⟨h, rfl, rfl⟩
  · split
    · exact harmed
    · exact ⟨h, rfl, rfl⟩

theorem headerFollowed_followHeader (h : TxSound frame mark onBus d) :
    HeaderFollowed frame mark onBus d.txAlarmUs d.txState d.followHeader := by
  unfold followHeader
  split
  · exact ⟨h, rfl, rfl⟩
  · split
    · split
      · exact ⟨h, rfl, rfl⟩
      · split
        · exact ⟨h, rfl, rfl⟩
        · split
          · exact headerFollowed_arm (d := { d with rxDstLo := d.rxByte }) h _
          · exact ⟨h, rfl, rfl⟩
    · split
      · exact ⟨h, rfl, rfl⟩
      · split
        · exact ⟨h, rfl, rfl⟩
        · split
          · exact headerFollowed_arm h _
          · exact ⟨h, rfl, rfl⟩

theorem rxSound_of_ne (h : d.rxState ≠ .receive) : RxSound d := fun hreceive => absurd hreceive h

theorem rxDone_endOfCharacter (h : TxSound frame mark onBus d) (bit : Bool) :
    RxDone frame mark onBus d (d.endOfCharacter bit) := by
  have hpositive : 0 < waitMoreDataTimeoutUs := by decide
  unfold endOfCharacter
  dsimp only
  split
  · have hqueued := txSound_queueMessage h (.data d.rxByte) rfl
    have hheader := headerFollowed_followHeader hqueued
    refine ⟨hheader.sound, rxSound_of_ne nofun, fun _ => hpositive, .inr (.inl ?_)⟩
    exact ⟨hheader.txAlarm, hheader.txState⟩
  · exact ⟨h, rxSound_of_ne nofun, fun _ => hpositive, .inr (.inl ⟨rfl, rfl⟩)⟩

theorem rxDone_rxHandleStop (h : TxSound frame mark onBus d) (bit : Bool) :
    RxDone frame mark onBus d (d.rxHandleStop bit) := by
  unfold rxHandleStop
  dsimp only
  by_cases hack : d.txState = .waitingAck
  · -- The character is the answer: the window closes, with an alarm on neither side.
    have hawaiting := h
    unfold TxSound at hawaiting
    simp only [hack] at hawaiting
    simp only [hack, beq_self_eq_true, if_true]
    split
    · exact ⟨⟨hawaiting.1, hawaiting.2.answered _⟩, rxSound_of_ne nofun,
        fun hnot => absurd rfl hnot, .inl rfl⟩
    · exact ⟨⟨hawaiting.1, hawaiting.2.answered _⟩, rxSound_of_ne nofun,
        fun hnot => absurd rfl hnot, .inl rfl⟩
  · have hnot : (d.txState == .waitingAck) = false := by simpa using hack
    simp only [hnot, Bool.false_eq_true, if_false]
    split
    · exact rxDone_endOfCharacter h bit
    · have hqueued := txSound_queueMessage
        (d := { d with rxErrors := d.rxErrors ||| rxErrorFraming }) h .framingError rfl
      exact rxDone_endOfCharacter hqueued bit

theorem rxDone_processReceiveBit (h : TxSound frame mark onBus d) (hposition : RxSound d)
    (hstate : d.rxState = .receive) : RxDone frame mark onBus d d.processReceiveBit := by
  obtain ⟨hleast, hmost⟩ := hposition hstate
  unfold processReceiveBit
  split
  · exact ⟨h, fun _ => ⟨show (-1 : Int) ≤ 0 by decide, show (0 : Int) ≤ 9 by decide⟩,
      fun _ => bitTimeUs_pos, .inr (.inl ⟨rfl, rfl⟩)⟩
  · rename_i hstart
    dsimp only
    split
    · rename_i hdata
      simp only [isDataBitPosition, Bool.and_eq_true, decide_eq_true_eq] at hdata
      exact ⟨h, fun _ => ⟨Int.le_add_one hleast, Int.add_le_add_right (c := 1) (b := 8)
        (Int.le_trans hdata.2 (by decide))⟩, fun _ => bitTimeUs_pos, .inr (.inl ⟨rfl, rfl⟩)⟩
    · split
      · -- A wrong parity bit is noted.
        unfold parityBit
        split
        · dsimp only
          split
          · have hqueued := txSound_queueMessage (d := { d with
              rxZeroDetected := false, rxErrors := d.rxErrors ||| rxErrorParity }) h
              .parityError rfl
            exact ⟨hqueued, fun _ => ⟨show (-1 : Int) ≤ 9 by decide, Int.le_refl 9⟩,
              fun _ => bitTimeUs_pos, .inr (.inl ⟨rfl, rfl⟩)⟩
          · exact ⟨h, fun _ => ⟨show (-1 : Int) ≤ 9 by decide, Int.le_refl 9⟩,
              fun _ => bitTimeUs_pos, .inr (.inl ⟨rfl, rfl⟩)⟩
        · exact ⟨h, fun _ => ⟨show (-1 : Int) ≤ 9 by decide, Int.le_refl 9⟩,
            fun _ => bitTimeUs_pos, .inr (.inl ⟨rfl, rfl⟩)⟩
      · -- No other position is left: this is where a position outside the character would stall the
        -- receiver without an alarm.
        rename_i hdata hparity
        have hstop : d.rxBitPosition = 9 := by
          simp only [isDataBitPosition, Bool.and_eq_true, decide_eq_true_eq, not_and] at hdata
          omega
        rw [if_pos hstop]
        exact rxDone_rxHandleStop (d := { d with rxZeroDetected := false }) h _

theorem rxDone_rxHandleTelegramComplete (h : TxSound frame mark onBus d) :
    RxDone frame mark onBus d d.rxHandleTelegramComplete := by
  have hfinished : TxSound frame mark onBus d.finishRxTelegram :=
    txSound_queueMessage (d := { d with
      rxErrors := 0, rxByteCount := 0, rxDstHi := 0, rxDstLo := 0, rxExtendedFrame := false
      rxExtGroupAddressed := false, rxState := .idle }) h _ rfl
  unfold rxHandleTelegramComplete
  dsimp only
  split
  · exact ⟨hfinished, rxSound_of_ne nofun, fun hnot => absurd rfl hnot, .inr (.inl ⟨rfl, rfl⟩)⟩
  · split
    · have hqueued := txSound_queueMessage hfinished
        (.dlAckSuppressed d.finishRxTelegram.txState) rfl
      exact ⟨hqueued, rxSound_of_ne nofun, fun hnot => absurd rfl hnot, .inr (.inl ⟨rfl, rfl⟩)⟩
    · rename_i hfree
      have hnotStarted : NotStarted frame mark onBus d.finishRxTelegram.txTelegramLength
          d.finishRxTelegram.txBuffer d.finishRxTelegram.messages := by
        unfold TxSound at hfinished
        rw [not_and_or, not_not, not_not] at hfree
        rcases hfree with hidle | hslot
        · rw [hidle] at hfinished
          exact .inl hfinished.2
        · rw [hslot] at hfinished
          exact hfinished.1
      exact ⟨⟨hnotStarted, nofun⟩, rxSound_of_ne nofun, fun hnot => absurd rfl hnot,
        .inr (.inr ⟨rfl, rfl, (by decide : 0 < telegramCompleteToAckStartDelayUs)⟩)⟩

theorem txSound_processRxTimer (h : TxSound frame mark onBus d) (hposition : RxSound d)
    (busDominant : Bool) : RxDone frame mark onBus d (d.processRxTimer busDominant) := by
  unfold processRxTimer
  split
  · rename_i hidle
    exact ⟨h, hposition, fun hnot => absurd hidle hnot, .inr (.inl ⟨rfl, rfl⟩)⟩
  · unfold processStartBit
    split
    · exact ⟨h, rxSound_of_ne nofun, fun hnot => absurd rfl hnot, .inr (.inl ⟨rfl, rfl⟩)⟩
    · exact ⟨h, fun _ => ⟨Int.le_refl (-1), show (-1 : Int) ≤ 9 by decide⟩,
        fun _ => (by decide : 0 < bitSamplingOffsetUs - startBitValidationTimeUs),
        .inr (.inl ⟨rfl, rfl⟩)⟩
  · rename_i hreceive
    exact rxDone_processReceiveBit h hposition hreceive
  · exact rxDone_rxHandleTelegramComplete h

/-! ## Interrupts at any time -/

/-- `onTimerAlarm` at the time `nowUs`, which may be later than the alarm was due. -/
def onTimerAlarmAt (d : Driver) (nowUs : Nat) (busDominant : Bool) : Driver :=
  let firedAlarmUs := d.armedAlarmUs
  let taken := { d with armedAlarmOwner := .none, armedAlarmUs := 0 }
  match d.armedAlarmOwner with
  | .none => taken.rearmTimer
  | .tx =>
    if d.txAlarmUs ≠ firedAlarmUs then taken.rearmTimer
    else
      let done := ({ taken with txAlarmUs := 0 }).processTxTimer nowUs busDominant
      ({ done.1 with txAlarmUs := nextAlarm firedAlarmUs done.2 }).rearmTimer
  | .rx =>
    if d.rxAlarmUs ≠ firedAlarmUs then taken.rearmTimer
    else (taken.onRxAlarm firedAlarmUs busDominant).rearmTimer

/-- The octets on the bus after an alarm. -/
def carriedAtAlarm (d : Driver) (onBus : List UInt8) : List UInt8 :=
  if d.armedAlarmOwner = .tx ∧ d.txAlarmUs = d.armedAlarmUs then d.carried onBus else onBus

/-- What is not idle has an alarm pending, and the hardware is armed for the earlier one. -/
structure AlarmsPending (d : Driver) : Prop where
  tx : d.txState ≠ .idle → d.txAlarmUs ≠ 0
  rx : d.rxState ≠ .idle → d.rxAlarmUs ≠ 0
  armedTx : d.txAlarmUs ≠ 0 → d.armedAlarmOwner ≠ .none ∧ d.armedAlarmUs ≤ d.txAlarmUs
  armedRx : d.rxAlarmUs ≠ 0 → d.armedAlarmOwner ≠ .none ∧ d.armedAlarmUs ≤ d.rxAlarmUs

/-- What holds of the driver in every run. -/
structure Sound (frame : Option (List UInt8)) (mark : Nat) (onBus : List UInt8) (d : Driver) :
    Prop where
  transmitter : TxSound frame mark onBus d
  receiver : RxSound d
  alarms : AlarmsPending d

theorem sound_rearmTimer (h : TxSound frame mark onBus d) (hreceiver : RxSound d)
    (htx : d.txState ≠ .idle → d.txAlarmUs ≠ 0) (hrx : d.rxState ≠ .idle → d.rxAlarmUs ≠ 0) :
    Sound frame mark onBus d.rearmTimer := by
  unfold rearmTimer
  split
  · rename_i hfirst
    refine ⟨h, hreceiver, htx, hrx, fun hpending => ⟨nofun, ?_⟩, fun _ => ⟨nofun, Nat.le_refl _⟩⟩
    exact hfirst.2.resolve_left hpending
  · rename_i hfirst
    split
    · rename_i hsecond
      refine ⟨h, hreceiver, htx, hrx, fun _ => ⟨nofun, Nat.le_refl _⟩, fun hpending => ⟨nofun, ?_⟩⟩
      change d.txAlarmUs ≤ d.rxAlarmUs
      by_contra hlater
      exact hfirst ⟨hpending, .inr (by omega)⟩
    · rename_i hnone
      refine ⟨h, hreceiver, htx, hrx, fun hpending => absurd hpending hnone, fun hpending => ?_⟩
      have hnone' : d.txAlarmUs = 0 := not_not.mp hnone
      exact absurd ⟨hpending, .inl hnone'⟩ hfirst

theorem sound_onTxAlarm (h : Sound frame mark onBus d) (firedAlarmUs nowUs : Nat)
    (busDominant : Bool) :
    let done := ({ d with armedAlarmOwner := .none, armedAlarmUs := 0, txAlarmUs := 0 }
      : Driver).processTxTimer nowUs busDominant
    Sound frame mark (d.carried onBus)
      ({ done.1 with txAlarmUs := nextAlarm firedAlarmUs done.2 } : Driver).rearmTimer := by
  intro done
  have hdone : TxDone frame mark (d.carried onBus) d done := txSound_processTxTimer
    (d := { d with armedAlarmOwner := .none, armedAlarmUs := 0, txAlarmUs := 0 }) h.transmitter nowUs
    busDominant
  refine sound_rearmTimer hdone.sound ?_ ?_ ?_
  · intro hreceive
    rcases hdone.receiver with hidle | ⟨hstate, hposition⟩
    · exact absurd (hidle.symm.trans hreceive) nofun
    · have hkept := h.receiver (hstate.symm.trans hreceive)
      rw [← hposition] at hkept
      exact hkept
  · intro hbusy
    have hpositive := hdone.pending hbusy
    change nextAlarm firedAlarmUs done.2 ≠ 0
    rw [nextAlarm, if_pos hpositive]
    omega
  · intro hbusy
    rcases hdone.receiver with hidle | ⟨hstate, -⟩
    · exact absurd hidle hbusy
    · change done.1.rxAlarmUs ≠ 0
      rw [hdone.rxAlarm]
      exact h.alarms.rx (fun hidle => hbusy (hstate.trans hidle))

theorem sound_onRxAlarm (h : Sound frame mark onBus d) (firedAlarmUs : Nat) (busDominant : Bool) :
    Sound frame mark onBus (({ d with armedAlarmOwner := .none, armedAlarmUs := 0 }
      : Driver).onRxAlarm firedAlarmUs busDominant).rearmTimer := by
  have hdone := txSound_processRxTimer (d := { d with
    armedAlarmOwner := .none, armedAlarmUs := 0, rxAlarmUs := 0 }) h.transmitter h.receiver
    busDominant
  unfold onRxAlarm
  dsimp only
  split
  · rename_i hpositive
    split
    · -- The end of a telegram hands the delay to the transmitter.
      rename_i hhanded
      refine sound_rearmTimer hdone.sound hdone.receiver ?_ ?_
      · intro _
        exact Nat.ne_of_gt (Nat.add_pos_right _ hpositive)
      · intro hbusy
        exact absurd hhanded.1 hbusy
    · rename_i hkept
      refine sound_rearmTimer hdone.sound hdone.receiver ?_ ?_
      · intro hbusy
        rcases hdone.transmitter with hidle | ⟨halarm, hstate⟩ | ⟨hidle, hslot, -⟩
        · exact absurd hidle hbusy
        · exact fun hzero => h.alarms.tx (fun hidle => hbusy (hstate.trans hidle))
            (halarm.symm.trans hzero)
        · exact absurd ⟨hidle, hslot⟩ hkept
      · intro _
        exact Nat.ne_of_gt (Nat.add_pos_right _ hpositive)
  · rename_i hnone
    refine sound_rearmTimer hdone.sound hdone.receiver ?_ ?_
    · intro hbusy
      rcases hdone.transmitter with hidle | ⟨halarm, hstate⟩ | ⟨-, -, hpositive⟩
      · exact absurd hidle hbusy
      · exact fun hzero => h.alarms.tx (fun hidle => hbusy (hstate.trans hidle))
          (halarm.symm.trans hzero)
      · exact absurd hpositive hnone
    · intro hbusy
      exact absurd (hdone.pending hbusy) hnone

theorem sound_onTimerAlarmAt (h : Sound frame mark onBus d) (nowUs : Nat) (busDominant : Bool) :
    Sound frame mark (d.carriedAtAlarm onBus) (d.onTimerAlarmAt nowUs busDominant) := by
  have hrearmed : Sound frame mark onBus
      ({ d with armedAlarmOwner := .none, armedAlarmUs := 0 } : Driver).rearmTimer :=
    sound_rearmTimer h.transmitter h.receiver h.alarms.tx h.alarms.rx
  -- An alarm that is stale, or that nobody owns, only arms the hardware again.
  by_cases hdue : d.armedAlarmOwner = .tx ∧ d.txAlarmUs = d.armedAlarmUs
  · have hcarried : d.carriedAtAlarm onBus = d.carried onBus := if_pos hdue
    rw [hcarried]
    unfold onTimerAlarmAt
    simp only [hdue.1]
    rw [if_neg (not_not.mpr hdue.2)]
    exact sound_onTxAlarm h d.armedAlarmUs nowUs busDominant
  · have hcarried : d.carriedAtAlarm onBus = onBus := if_neg hdue
    rw [hcarried]
    unfold onTimerAlarmAt
    cases howner : d.armedAlarmOwner with
    | none => exact hrearmed
    | tx =>
      dsimp only
      rw [if_pos (fun hsame => hdue ⟨howner, hsame⟩)]
      exact hrearmed
    | rx =>
      dsimp only
      split
      · exact hrearmed
      · exact sound_onRxAlarm h d.armedAlarmUs busDominant

theorem sound_detectCollision (h : Sound frame mark onBus d) :
    Sound frame mark onBus d.detectCollision := by
  unfold detectCollision
  split
  · exact h
  · rename_i hone
    rw [not_or, not_not, Bool.not_eq_true] at hone
    have hsending := h.transmitter
    unfold TxSound Character at hsending
    simp only [hone.1, hone.2, Bool.false_eq_true, if_false] at hsending
    refine ⟨⟨hone.2, hsending.2.collided⟩, h.receiver, ?_⟩
    exact ⟨fun hidle => absurd rfl hidle, h.alarms.rx, fun hnone => absurd rfl hnone,
      h.alarms.armedRx⟩

theorem sound_startCharacter (h : Sound frame mark onBus d) (nowUs : Nat) :
    Sound frame mark onBus (d.startCharacter nowUs) := by
  have hpositive : nowUs + startBitValidationTimeUs ≠ 0 :=
    Nat.ne_of_gt (Nat.add_pos_right _ (by decide : 0 < startBitValidationTimeUs))
  have hfinished : TxSound frame mark onBus d.finishRxTelegram :=
    txSound_queueMessage (d := { d with
      rxErrors := 0, rxByteCount := 0, rxDstHi := 0, rxDstLo := 0, rxExtendedFrame := false
      rxExtGroupAddressed := false, rxState := .idle }) h.transmitter _ rfl
  unfold startCharacter
  dsimp only
  split
  · rw [if_pos (show ({ d.finishRxTelegram with pendingAckByte := 0 } : Driver).rxState = .idle
      from rfl)]
    exact sound_rearmTimer hfinished (rxSound_of_ne nofun) h.alarms.tx (fun _ => hpositive)
  · split
    · exact sound_rearmTimer h.transmitter (rxSound_of_ne nofun) h.alarms.tx (fun _ => hpositive)
    · exact sound_rearmTimer h.transmitter (rxSound_of_ne nofun) h.alarms.tx (fun _ => hpositive)

theorem sound_onRxEdge (h : Sound frame mark onBus d) (nowUs : Nat) :
    Sound frame mark onBus (d.onRxEdge nowUs) := by
  have hseen := sound_detectCollision (d := { d with rxZeroDetected := true })
    ⟨h.transmitter, h.receiver, h.alarms.tx, h.alarms.rx, h.alarms.armedTx, h.alarms.armedRx⟩
  unfold onRxEdge
  dsimp only
  split
  · exact hseen
  · split
    · exact sound_startCharacter hseen nowUs
    · exact hseen

/-- `send` takes a frame when the transmitter is idle, or waits with an acknowledgement and no frame. -/
theorem send_accepted {octets : List UInt8} {nowUs : Nat} (h : (d.send octets nowUs).2 = true) :
    octets ≠ [] ∧ (d.txState = .idle
      ∨ d.txState = .waitingSlot ∧ d.sendingAck = true ∧ d.txTelegramLength = 0) := by
  unfold send at h
  dsimp only at h
  split at h
  · cases h
  · rename_i hlength
    split at h
    · cases h
    · rename_i hfree
      refine ⟨fun hempty => hlength (.inl hempty), ?_⟩
      by_cases hidle : d.txState = .idle
      · exact .inl hidle
      · refine .inr ?_
        by_contra hnone
        refine hfree ⟨hidle, ?_⟩
        rw [Bool.eq_false_iff]
        intro harmed
        simp only [Bool.and_eq_true, beq_iff_eq] at harmed
        exact hnone ⟨harmed.1.1, harmed.1.2, harmed.2⟩

theorem send_rejected {octets : List UInt8} {nowUs : Nat} (h : (d.send octets nowUs).2 = false) :
    (d.send octets nowUs).1 = d := by
  unfold send at h ⊢
  dsimp only at h ⊢
  split
  · rfl
  · rename_i hlength
    rw [if_neg hlength] at h
    split
    · rfl
    · rename_i hfree
      rw [if_neg hfree] at h
      split at h
      · cases h
      · cases h

theorem rested_of_accepted (h : TxSound frame mark onBus d) {octets : List UInt8} {nowUs : Nat}
    (haccepted : (d.send octets nowUs).2 = true) :
    Rested frame mark onBus d.txTelegramLength d.messages := by
  unfold TxSound at h
  rcases (send_accepted haccepted).2 with hidle | ⟨hslot, -, hlength⟩
  · simp only [hidle] at h
    exact h.2
  · simp only [hslot] at h
    exact rested_of_notStarted h.1 (by omega)

theorem sound_send (h : Sound frame mark onBus d) {octets : List UInt8} {nowUs : Nat}
    (haccepted : (d.send octets nowUs).2 = true) :
    Sound (some octets) d.messages.length [] (d.send octets nowUs).1 := by
  have hunder : UnderWay (some octets) d.messages.length octets.length octets d.messages := by
    refine ⟨rfl, rfl, List.length_pos_of_ne_nil (send_accepted haccepted).1, Nat.le_refl _, ?_⟩
    rw [queuedTx, List.drop_length, List.filter_nil]
  have hpositive : nowUs + bitTimeUs ≠ 0 := Nat.ne_of_gt (Nat.add_pos_right _ bitTimeUs_pos)
  have hfree := (send_accepted haccepted).2
  unfold send at haccepted ⊢
  dsimp only at haccepted ⊢
  split
  · rename_i hlength
    rw [if_pos hlength] at haccepted
    cases haccepted
  · rename_i hlength
    rw [if_neg hlength] at haccepted
    split
    · rename_i hbusy
      rw [if_pos hbusy] at haccepted
      cases haccepted
    · split
      · -- The slot of the acknowledgement keeps its alarm.
        rename_i harmed
        simp only [Bool.and_eq_true, beq_iff_eq] at harmed
        refine sound_rearmTimer ⟨.inr ⟨hunder, rfl⟩, fun _ => hunder.nonempty⟩ h.receiver ?_
          h.alarms.rx
        intro _
        exact h.alarms.tx (fun hidle => by rw [harmed.1.1] at hidle; cases hidle)
      · exact sound_rearmTimer ⟨.inr ⟨hunder, rfl⟩, fun _ => hunder.nonempty⟩ h.receiver
          (fun _ => hpositive) h.alarms.rx

end Driver

/-! ## Runs -/

/-- What happens to the driver. -/
inductive DriverEvent where
  | send (octets : List UInt8) (nowUs : Nat)
  | onRxEdge (nowUs : Nat)
  | onTimerAlarm (nowUs : Nat) (busDominant : Bool)
  deriving DecidableEq, Repr

/-- The driver, the last frame that it accepted, how many messages were queued before it, and which
octets of it were driven to their stop bit. -/
structure Driving where
  driver : Driver
  frame : Option (List UInt8) := none
  mark : Nat := 0
  onBus : List UInt8 := []
  deriving DecidableEq, Repr

namespace Driving

/-- One event. -/
def step (s : Driving) : DriverEvent → Driving
  | .send octets nowUs =>
    let sent := s.driver.send octets nowUs
    if sent.2 then
      { driver := sent.1, frame := some octets, mark := s.driver.messages.length, onBus := [] }
    else { s with driver := sent.1 }
  | .onRxEdge nowUs => { s with driver := s.driver.onRxEdge nowUs }
  | .onTimerAlarm nowUs busDominant =>
    { s with
      driver := s.driver.onTimerAlarmAt nowUs busDominant
      onBus := s.driver.carriedAtAlarm s.onBus }

/-- `init`, with the address, the group addresses and the busy flag that were published. -/
def initial (ownAddressRaw : UInt16) (localBusy : Bool) (ackGroupAddresses : List UInt16) :
    Driving :=
  { driver := { ownAddressRaw, localBusy, ackGroupAddresses } }

/-- The driver is sound for the frame that the run has seen. -/
def Sound (s : Driving) : Prop := Driver.Sound s.frame s.mark s.onBus s.driver

theorem sound_initial (ownAddressRaw : UInt16) (localBusy : Bool) (ackGroupAddresses : List UInt16) :
    (initial ownAddressRaw localBusy ackGroupAddresses).Sound := by
  refine ⟨⟨rfl, rfl, Nat.le_refl _, .inl ⟨rfl, rfl⟩⟩, Driver.rxSound_of_ne nofun, ?_⟩
  exact ⟨fun hidle => absurd rfl hidle, fun hidle => absurd rfl hidle,
    fun hnone => absurd rfl hnone, fun hnone => absurd rfl hnone⟩

theorem sound_step (s : Driving) (event : DriverEvent) (h : s.Sound) : (s.step event).Sound := by
  cases event with
  | send octets nowUs =>
    unfold step
    dsimp only
    split
    · rename_i haccepted
      exact Driver.sound_send h haccepted
    · rename_i hrejected
      have hkept := Driver.send_rejected (Bool.not_eq_true _ ▸ hrejected)
      change Driver.Sound s.frame s.mark s.onBus (s.driver.send octets nowUs).1
      rw [hkept]
      exact h
  | onRxEdge nowUs => exact Driver.sound_onRxEdge h nowUs
  | onTimerAlarm nowUs busDominant => exact Driver.sound_onTimerAlarmAt h nowUs busDominant

/-- `TxComplete` and `TxAckResponse` messages since the last frame was accepted. -/
def outcomes (s : Driving) : List Message := (s.driver.messages.drop s.mark).filter Message.isOutcome

theorem outcomes_eq_queuedTx (s : Driving) :
    s.outcomes = (queuedTx s.mark s.driver.messages).filter Message.isOutcome := by
  rw [queuedTx, List.filter_filter]
  apply List.filter_congr
  intro message _
  cases message <;> rfl

theorem Sound.outcomes_le_one {s : Driving} (h : s.Sound) : s.outcomes.length ≤ 1 := by
  rw [outcomes_eq_queuedTx]
  rcases h.transmitter.silent_or_settled with hsilent | ⟨octets, -, hsettled⟩
  · rw [hsilent]
    exact Nat.zero_le 1
  · exact Nat.le_of_eq hsettled.outcomes

/-- Progress and single outcome. After any interleaving of `send`, edges and alarms, a state
machine that is not idle has its alarm pending and the hardware is armed no later than the earlier of
the two; a frame that was accepted never has two outcomes, and has exactly one by the time at which the
next frame would be accepted. -/
theorem driver_progress (ownAddressRaw : UInt16) (localBusy : Bool)
    (ackGroupAddresses : List UInt16) (events : List DriverEvent) :
    let s := run step (initial ownAddressRaw localBusy ackGroupAddresses) events
    s.driver.AlarmsPending ∧ s.outcomes.length ≤ 1
      ∧ ∀ octets nowUs, (s.driver.send octets nowUs).2 = true → s.frame ≠ none →
        s.outcomes.length = 1 := by
  intro s
  have hsound : s.Sound :=
    run_invariant sound_step (sound_initial ownAddressRaw localBusy ackGroupAddresses) events
  refine ⟨hsound.alarms, hsound.outcomes_le_one, ?_⟩
  -- A frame is accepted only where the transmitter is at rest, and there the last one is settled.
  intro octets nowUs haccepted hframe
  have hrested := Driver.rested_of_accepted hsound.transmitter haccepted
  rcases hrested.settled with ⟨hnone, -⟩ | ⟨sent, -, hsettled⟩
  · exact absurd hnone hframe
  · rw [outcomes_eq_queuedTx]
    exact hsettled.outcomes

/-- A frame that loses the arbitration at its first one, and a frame after it. -/
def collided : List DriverEvent :=
  [.send [0xBD] 1000, .onTimerAlarm 10000 false, .onTimerAlarm 10035 true, .onTimerAlarm 10104 false,
    .onRxEdge 10110]

theorem driver_progress_collided :
    ((run step (initial 0x1101 false []) collided).driver.send [0xBC] 10200).2 = true
      ∧ (run step (initial 0x1101 false []) collided).outcomes.length = 1 :=
  ⟨by decide, (driver_progress 0x1101 false [] collided).2.2 [0xBC] 10200 (by decide) (by decide)⟩

end Driving

end KnxStack.Physical
