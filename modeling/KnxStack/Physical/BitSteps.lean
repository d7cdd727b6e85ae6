import KnxStack.Physical.AckHeader

/-!
# The steps of two drivers

What an alarm and an edge do to a driver that sends a character (`SenderAt`) and to one that receives it
(`ReceiverAt`), with the time at which the next alarm is due.
-/

set_option autoImplicit false

namespace KnxStack.Physical

/-! ## The sender -/

/-- The bit at a position of a character: its data bits, then the parity. -/
def bitAt (octet : UInt8) (position : Nat) : Bool :=
  if position < 8 then octet.toNat.testBit position else calculateParityBit octet

/-- The sender of a character `octet` with `rest` to follow: the position of its next bit, when it is
due, and whether it pulls the bus low until then. -/
structure SenderAt (s : Driver) (pulls : Bool) (position : Int) (alarm : Nat) (octet : UInt8)
    (rest : List UInt8) : Prop where
  state : if pulls then s.txState = .sendingZeroActive
    else s.txState = .sendingOne ∨ s.txState = .sendingZeroEqualization
  dominant : s.dominant = pulls
  bit : s.txBitPosition = position
  txAlarm : s.txAlarmUs = alarm
  rxAlarm : s.rxAlarmUs = 0
  owner : s.armedAlarmOwner = .tx
  armed : s.armedAlarmUs = alarm
  notAck : s.sendingAck = false
  current : s.txCurrentByte = octet
  buffer : s.txBuffer.drop s.txBytePosition = octet :: rest
  length : s.txTelegramLength = s.txBuffer.length

section Sender

variable {s : Driver} {alarm : Nat} {octet : UInt8} {rest : List UInt8}

/-- The driver whose alarm of the transmitter is being handled. -/
def taken (d : Driver) : Driver :=
  { d with armedAlarmOwner := .none, armedAlarmUs := 0, txAlarmUs := 0 }

/-- The driver that waits for the next alarm of its transmitter. -/
def armedTx (d : Driver) (alarm : Nat) : Driver :=
  { d with txAlarmUs := alarm, armedAlarmOwner := .tx, armedAlarmUs := alarm }

theorem rearmTimer_tx {d : Driver} (hrx : d.rxAlarmUs = 0) (htx : d.txAlarmUs ≠ 0) :
    d.rearmTimer = armedTx d d.txAlarmUs := by
  rw [Driver.rearmTimer, if_neg (fun h => h.1 hrx), if_pos htx]
  rfl

theorem onTimerAlarm_tx_eq {d : Driver} {delay : Nat} {busDominant : Bool}
    (howner : s.armedAlarmOwner = .tx) (harmed : s.armedAlarmUs = alarm)
    (halarm : s.txAlarmUs = alarm)
    (hdone : (taken s).processTxTimer alarm busDominant = (d, delay)) :
    s.onTimerAlarm busDominant
      = ({ d with txAlarmUs := Driver.nextAlarm alarm delay } : Driver).rearmTimer := by
  rw [Driver.onTimerAlarm, howner, harmed, halarm]
  dsimp only
  rw [if_neg (not_not.mpr rfl), Driver.onTxAlarm]
  change ({ ((taken s).processTxTimer alarm busDominant).1 with
    txAlarmUs := Driver.nextAlarm alarm ((taken s).processTxTimer alarm busDominant).2 } :
      Driver).rearmTimer = _
  rw [hdone]

theorem onTimerAlarm_tx {d : Driver} {delay : Nat} {busDominant : Bool}
    (howner : s.armedAlarmOwner = .tx) (harmed : s.armedAlarmUs = alarm)
    (halarm : s.txAlarmUs = alarm)
    (hdone : (taken s).processTxTimer alarm busDominant = (d, delay)) (hdelay : 0 < delay)
    (hrx : d.rxAlarmUs = 0) : s.onTimerAlarm busDominant = armedTx d (alarm + delay) := by
  have hnext : Driver.nextAlarm alarm delay = alarm + delay := if_pos hdelay
  rw [onTimerAlarm_tx_eq howner harmed halarm hdone, hnext, rearmTimer_tx]
  · rfl
  · exact hrx
  · exact (show alarm + delay ≠ 0 by omega)

theorem processTxTimer_between {d : Driver}
    (h : d.txState = .sendingOne ∨ d.txState = .sendingZeroEqualization) (nowUs : Nat)
    (busDominant : Bool) :
    d.processTxTimer nowUs busDominant = ({ d with dominant := false }).processEndOfTxBit nowUs := by
  rw [Driver.processTxTimer]
  rcases h with hone | hzero
  · rw [hone]
  · rw [hzero]

theorem processEndOfTxBit_bit {d : Driver} {position : Nat} (hposition : position ≤ 8)
    (h : d.txBitPosition = position) (nowUs : Nat) :
    d.processEndOfTxBit nowUs
      = ({ d with txBitPosition := (position + 1 : Nat) }).sendBit
        (bitAt d.txCurrentByte position) := by
  rw [Driver.processEndOfTxBit, bitAt, h]
  by_cases hdata : position < 8
  · have hposition' : isDataBitPosition (position : Int) = true := by
      rw [isDataBitPosition, Bool.and_eq_true, decide_eq_true_eq, decide_eq_true_eq]
      omega
    rw [if_pos hposition', if_pos hdata, Int.toNat_natCast]
    rfl
  · obtain rfl : position = 8 := by omega
    rw [if_neg (by decide), if_neg (by decide), if_pos (by decide), if_neg (by decide)]
    rfl

theorem SenderAt.between {position : Int} (h : SenderAt s false position alarm octet rest) :
    (taken s).txState = .sendingOne ∨ (taken s).txState = .sendingZeroEqualization := by
  have hstate := h.state
  rw [if_neg (by decide)] at hstate
  exact hstate

theorem SenderAt.start (h : SenderAt s false (-1) alarm octet rest) (busDominant : Bool) :
    SenderAt (s.onTimerAlarm busDominant) true 0 (alarm + 35) octet rest := by
  have hdone : (taken s).processTxTimer alarm busDominant
      = ({ taken s with
          dominant := true, lastCharStartUs := alarm, txBitPosition := 0
          txState := .sendingZeroActive }, 35) := by
    have hbit : ({ taken s with dominant := false } : Driver).txBitPosition = -1 := h.bit
    rw [processTxTimer_between h.between, Driver.processEndOfTxBit, hbit,
      if_neg (by decide), if_pos rfl]
    rfl
  rw [onTimerAlarm_tx h.owner h.armed h.txAlarm hdone (by decide) h.rxAlarm]
  exact ⟨rfl, rfl, rfl, rfl, h.rxAlarm, rfl, rfl, h.notAck, h.current, h.buffer, h.length⟩

theorem SenderAt.sendBit {position : Nat} (h : SenderAt s false position alarm octet rest)
    (hposition : position ≤ 8) (busDominant : Bool) :
    SenderAt (s.onTimerAlarm busDominant) (!bitAt octet position) (position + 1 : Nat)
      (if bitAt octet position then alarm + 104 else alarm + 35) octet rest := by
  have hdone : (taken s).processTxTimer alarm busDominant
      = ({ taken s with dominant := false, txBitPosition := (position + 1 : Nat) } : Driver).sendBit
        (bitAt octet position) := by
    have hbit : ({ taken s with dominant := false } : Driver).txBitPosition = position := h.bit
    rw [processTxTimer_between h.between, processEndOfTxBit_bit hposition hbit,
      ← h.current]
    rfl
  cases hvalue : bitAt octet position with
  | true =>
    rw [hvalue, Driver.sendBit, if_pos rfl] at hdone
    rw [onTimerAlarm_tx h.owner h.armed h.txAlarm hdone (by decide) h.rxAlarm]
    exact ⟨.inl rfl, rfl, rfl, rfl, h.rxAlarm, rfl, rfl, h.notAck, h.current, h.buffer, h.length⟩
  | false =>
    rw [hvalue, Driver.sendBit, if_neg (by decide)] at hdone
    rw [onTimerAlarm_tx h.owner h.armed h.txAlarm hdone (by decide) h.rxAlarm]
    exact ⟨rfl, rfl, rfl, rfl, h.rxAlarm, rfl, rfl, h.notAck, h.current, h.buffer, h.length⟩

theorem SenderAt.release {position : Int} (h : SenderAt s true position alarm octet rest)
    (busDominant : Bool) :
    SenderAt (s.onTimerAlarm busDominant) false position (alarm + 69) octet rest := by
  have hstate : (taken s).txState = .sendingZeroActive := h.state
  have hdone : (taken s).processTxTimer alarm busDominant
      = ({ taken s with
          dlAckEchoSeen := if (taken s).sendingAck && busDominant then true
            else (taken s).dlAckEchoSeen
          dominant := false, txState := .sendingZeroEqualization }, 69) := by
    rw [Driver.processTxTimer, hstate]
    rfl
  rw [onTimerAlarm_tx h.owner h.armed h.txAlarm hdone (by decide) h.rxAlarm]
  exact ⟨.inr rfl, rfl, h.bit, rfl, h.rxAlarm, rfl, rfl, h.notAck, h.current, h.buffer, h.length⟩

theorem processEndOfTxBit_stop {d : Driver} (h : d.txBitPosition = 9) (nowUs : Nat) :
    d.processEndOfTxBit nowUs = d.endOfTxCharacter := by
  simp only [Driver.processEndOfTxBit, h]
  rfl

theorem endOfTxCharacter_next {d : Driver} (hack : d.sendingAck = false)
    (hmore : ¬d.txTelegramLength ≤ d.txBytePosition + 1) :
    d.endOfTxCharacter
      = ({ d with
          txBytePosition := d.txBytePosition + 1, txBitPosition := -1
          txCurrentByte := d.txBuffer.getD (d.txBytePosition + 1) 0 }, 312) := by
  rw [Driver.endOfTxCharacter, if_neg (by rw [hack]; decide)]
  exact if_neg hmore

theorem endOfTxCharacter_last {d : Driver} (hack : d.sendingAck = false)
    (hover : d.txTelegramLength ≤ d.txBytePosition + 1) :
    d.endOfTxCharacter
      = ({ d with
          txBytePosition := d.txBytePosition + 1, txBitPosition := -1 } : Driver).endOfFrame := by
  rw [Driver.endOfTxCharacter, if_neg (by rw [hack]; decide)]
  exact if_pos hover

theorem SenderAt.next {next : UInt8} (h : SenderAt s false 9 alarm octet (next :: rest))
    (busDominant : Bool) :
    SenderAt (s.onTimerAlarm busDominant) false (-1) (alarm + 312) next rest := by
  have hrest : s.txBuffer.drop (s.txBytePosition + 1) = next :: rest := by
    rw [← List.tail_drop, h.buffer]
    rfl
  have hmore : ¬s.txTelegramLength ≤ s.txBytePosition + 1 := by
    have hlength := congrArg List.length h.buffer
    rw [List.length_drop] at hlength
    simp only [List.length_cons] at hlength
    rw [h.length]
    omega
  have hnext : s.txBuffer.getD (s.txBytePosition + 1) 0 = next := by
    have hhead := congrArg (fun l : List UInt8 => l.getD 0 0) hrest
    simpa using hhead
  have hdone : (taken s).processTxTimer alarm busDominant
      = ({ taken s with
          dominant := false, txBytePosition := s.txBytePosition + 1, txBitPosition := -1
          txCurrentByte := next }, 312) := by
    rw [processTxTimer_between h.between, processEndOfTxBit_stop, endOfTxCharacter_next, ← hnext]
    · rfl
    · exact h.notAck
    · exact hmore
    · exact h.bit
  rw [onTimerAlarm_tx h.owner h.armed h.txAlarm hdone (by decide) h.rxAlarm]
  exact ⟨h.state, rfl, rfl, rfl, h.rxAlarm, rfl, rfl, h.notAck, rfl, hrest, h.length⟩

/-- The sender after its frame: it may wait for an acknowledgement. -/
structure Finished (s : Driver) (due : Nat) : Prop where
  silent : s.dominant = false
  rxAlarm : s.rxAlarmUs = 0
  waits : s.armedAlarmOwner = .none
    ∨ s.txState = .waitingAck ∧ s.armedAlarmOwner = .tx ∧ s.armedAlarmUs = due ∧ s.txAlarmUs = due

theorem onTimerAlarm_tx_done {d : Driver} {busDominant : Bool}
    (howner : s.armedAlarmOwner = .tx) (harmed : s.armedAlarmUs = alarm)
    (halarm : s.txAlarmUs = alarm)
    (hdone : (taken s).processTxTimer alarm busDominant = (d, 0)) (hrx : d.rxAlarmUs = 0) :
    s.onTimerAlarm busDominant
      = { d with txAlarmUs := 0, armedAlarmOwner := .none, armedAlarmUs := 0 } := by
  have hnext : Driver.nextAlarm alarm 0 = 0 := if_neg (by decide)
  rw [onTimerAlarm_tx_eq howner harmed halarm hdone, hnext, Driver.rearmTimer, if_neg (fun h => h.1 hrx), if_neg (not_not.mpr rfl)]

theorem SenderAt.last (h : SenderAt s false 9 alarm octet []) (busDominant : Bool) :
    Finished (s.onTimerAlarm busDominant) (alarm + 3744) := by
  have hover : s.txTelegramLength ≤ s.txBytePosition + 1 := by
    have hlength := congrArg List.length h.buffer
    rw [List.length_drop] at hlength
    simp only [List.length_cons, List.length_nil] at hlength
    rw [h.length]
    omega
  have hend : (taken s).processTxTimer alarm busDominant
      = ({ taken s with
          dominant := false, txBytePosition := s.txBytePosition + 1
          txBitPosition := -1 } : Driver).endOfFrame := by
    rw [processTxTimer_between h.between, processEndOfTxBit_stop, endOfTxCharacter_last]
    · rfl
    · exact h.notAck
    · exact hover
    · exact h.bit
  rw [Driver.endOfFrame] at hend
  by_cases hexpects : ({ taken s with
      dominant := false, txBytePosition := s.txBytePosition + 1
      txBitPosition := -1 } : Driver).txFrameExpectsAck = true
  · rw [if_pos hexpects] at hend
    rw [onTimerAlarm_tx h.owner h.armed h.txAlarm hend (by decide) h.rxAlarm]
    exact ⟨rfl, h.rxAlarm, .inr ⟨rfl, rfl, rfl, rfl⟩⟩
  · rw [if_neg hexpects] at hend
    rw [onTimerAlarm_tx_done h.owner h.armed h.txAlarm hend h.rxAlarm]
    exact ⟨rfl, h.rxAlarm, .inl rfl⟩

theorem Finished.onTimerAlarm {due : Nat} (h : Finished s due) (howner : s.armedAlarmOwner ≠ .none)
    (busDominant : Bool) : Finished (s.onTimerAlarm busDominant) due := by
  obtain hnone | ⟨hstate, htx, harmed, halarm⟩ := h.waits
  · exact absurd hnone howner
  · have hwaiting : (taken s).txState = .waitingAck := hstate
    have hdone : (taken s).processTxTimer due busDominant = (taken s).txHandleWaitingAck := by
      rw [Driver.processTxTimer, hwaiting]
    rw [Driver.txHandleWaitingAck] at hdone
    have hrx : (if (taken s).rxState = .idle then
        { (taken s).resetRxSamplingState with rxErrors := 0 } else taken s).rxAlarmUs = 0 := by
      split_ifs
      · exact h.rxAlarm
      · exact h.rxAlarm
    rw [onTimerAlarm_tx_done htx harmed halarm hdone hrx]
    refine ⟨?_, hrx, .inl rfl⟩
    change (if (taken s).rxState = .idle then
      { (taken s).resetRxSamplingState with rxErrors := 0 } else taken s).dominant = false
    split_ifs
    · exact h.silent
    · exact h.silent

/-- The sender with a frame that has not started. -/
structure Waiting (s : Driver) (alarm : Nat) (octet : UInt8) (rest : List UInt8) : Prop where
  state : s.txState = .waitingSlot
  rxIdle : s.rxState = .idle
  silent : s.dominant = false
  txAlarm : s.txAlarmUs = alarm
  rxAlarm : s.rxAlarmUs = 0
  owner : s.armedAlarmOwner = .tx
  armed : s.armedAlarmUs = alarm
  notAck : s.sendingAck = false
  buffer : s.txBuffer = octet :: rest
  length : s.txTelegramLength = s.txBuffer.length

theorem Waiting.processTxTimer (h : Waiting s alarm octet rest) (busDominant : Bool) :
    (taken s).processTxTimer alarm busDominant = (taken s).waitForBusIdle alarm := by
  have hstate : (taken s).txState = .waitingSlot := h.state
  have hack : (taken s).sendingAck = false := h.notAck
  rw [Driver.processTxTimer, hstate]
  dsimp only
  rw [Driver.txHandleWaitingSlot, if_neg (by rw [hack]; decide)]

theorem Waiting.start (h : Waiting s alarm octet rest)
    (hwait : 104 * s.txWaitTime ≤ alarm - s.lastCharStartUs) (busDominant : Bool) :
    SenderAt (s.onTimerAlarm busDominant) true 0 (alarm + 35) octet rest := by
  have hidle : ¬(taken s).rxState ≠ .idle := not_not.mpr h.rxIdle
  have hoctet : (taken s).txBuffer.getD 0 0 = octet := by
    have hbuffer : (taken s).txBuffer = octet :: rest := h.buffer
    rw [hbuffer]
    rfl
  have hdone : (taken s).processTxTimer alarm busDominant
      = ({ taken s with
          txBitPosition := 0, txBytePosition := 0, txCurrentByte := octet, lastCharStartUs := alarm
          dominant := true, txState := .sendingZeroActive }, 35) := by
    rw [h.processTxTimer, Driver.waitForBusIdle, if_neg hidle, hoctet]
    exact if_pos hwait
  rw [onTimerAlarm_tx h.owner h.armed h.txAlarm hdone (by decide) h.rxAlarm]
  exact ⟨rfl, rfl, rfl, rfl, h.rxAlarm, rfl, rfl, h.notAck, rfl, h.buffer, h.length⟩

theorem Waiting.wait (h : Waiting s alarm octet rest)
    (hwait : ¬104 * s.txWaitTime ≤ alarm - s.lastCharStartUs) (busDominant : Bool) :
    Waiting (s.onTimerAlarm busDominant) (s.lastCharStartUs + 104 * s.txWaitTime) octet rest
      ∧ (s.onTimerAlarm busDominant).txWaitTime = s.txWaitTime
      ∧ (s.onTimerAlarm busDominant).lastCharStartUs = s.lastCharStartUs := by
  have hidle : ¬(taken s).rxState ≠ .idle := not_not.mpr h.rxIdle
  have hdone : (taken s).processTxTimer alarm busDominant
      = (taken s, s.lastCharStartUs + 104 * s.txWaitTime - alarm) := by
    rw [h.processTxTimer, Driver.waitForBusIdle, if_neg hidle]
    exact if_neg hwait
  have hdelay : 0 < s.lastCharStartUs + 104 * s.txWaitTime - alarm := by omega
  have hdue : alarm + (s.lastCharStartUs + 104 * s.txWaitTime - alarm)
      = s.lastCharStartUs + 104 * s.txWaitTime := by omega
  rw [onTimerAlarm_tx h.owner h.armed h.txAlarm hdone hdelay h.rxAlarm, hdue]
  exact ⟨⟨h.state, h.rxIdle, h.silent, rfl, h.rxAlarm, rfl, rfl, h.notAck, h.buffer, h.length⟩,
    rfl, rfl⟩

end Sender

/-! ## The receiver -/

/-- What the receiver has queued since it was `before`, and how far it has followed the header. -/
structure Got (r before : Driver) (octets : List UInt8) : Prop where
  messages : r.messages
    = before.messages ++ before.header.begun.report before.published octets
  header : r.header = octets.foldl (Header.follow before.published) before.header.begun
  published : r.published = before.published

/-- The receiver of a character that started at `start`: its state, the position of the bit that it
samples next, whether it saw a pulse, and when it is due. -/
structure ReceiverAt (r : Driver) (state : RxState) (position : Int) (pulse : Bool) (alarm start : Nat)
    (before : Driver) (octets : List UInt8) : Prop where
  state : r.rxState = state
  bit : r.rxBitPosition = position
  pulse : r.rxZeroDetected = pulse
  rxAlarm : r.rxAlarmUs = alarm
  txAlarm : r.txAlarmUs = 0
  owner : r.armedAlarmOwner = .rx
  armed : r.armedAlarmUs = alarm
  started : r.lastCharStartUs = start
  txIdle : r.txState = .idle
  silent : r.dominant = false
  errors : r.rxErrors = 0
  notAck : r.sendingAck = false
  got : Got r before octets

section Receiver

variable {r before : Driver} {alarm start : Nat} {octet : UInt8} {octets : List UInt8}

/-- The driver whose alarm of the receiver is being handled. -/
def takenRx (d : Driver) : Driver :=
  { d with armedAlarmOwner := .none, armedAlarmUs := 0, rxAlarmUs := 0 }

/-- The driver that waits for the next alarm of its receiver. -/
def armedRx (d : Driver) (alarm : Nat) : Driver :=
  { d with rxAlarmUs := alarm, armedAlarmOwner := .rx, armedAlarmUs := alarm }

theorem onTimerAlarm_rx_eq (howner : r.armedAlarmOwner = .rx) (harmed : r.armedAlarmUs = alarm)
    (halarm : r.rxAlarmUs = alarm) (busDominant : Bool) :
    r.onTimerAlarm busDominant = (({ r with
      armedAlarmOwner := .none, armedAlarmUs := 0 } : Driver).onRxAlarm alarm
        busDominant).rearmTimer := by
  rw [Driver.onTimerAlarm, howner, harmed, halarm]
  exact if_neg (not_not.mpr rfl)

theorem onTimerAlarm_rx {d : Driver} {delay : Nat} {busDominant : Bool}
    (howner : r.armedAlarmOwner = .rx) (harmed : r.armedAlarmUs = alarm)
    (halarm : r.rxAlarmUs = alarm)
    (hdone : (takenRx r).processRxTimer busDominant = (d, delay)) (hdelay : 0 < delay)
    (htx : d.txState = .idle) (htxAlarm : d.txAlarmUs = 0) :
    r.onTimerAlarm busDominant = armedRx d (alarm + delay) := by
  rw [onTimerAlarm_rx_eq howner harmed halarm, Driver.onRxAlarm]
  change (if 0 < ((takenRx r).processRxTimer busDominant).2 then
    if ((takenRx r).processRxTimer busDominant).1.rxState = .idle
        ∧ ((takenRx r).processRxTimer busDominant).1.txState = .waitingSlot then
      ({ ((takenRx r).processRxTimer busDominant).1 with
        txAlarmUs := alarm + ((takenRx r).processRxTimer busDominant).2 } : Driver)
    else { ((takenRx r).processRxTimer busDominant).1 with
        rxAlarmUs := alarm + ((takenRx r).processRxTimer busDominant).2 }
    else ((takenRx r).processRxTimer busDominant).1).rearmTimer = _
  have hslot : ¬(d.rxState = .idle ∧ d.txState = .waitingSlot) := by
    rw [htx]
    exact fun h => nomatch h.2
  rw [hdone, if_pos hdelay, if_neg hslot, Driver.rearmTimer,
    if_pos ⟨show alarm + delay ≠ 0 by omega, .inl htxAlarm⟩]
  rfl

theorem onTimerAlarm_rx_kept (howner : r.armedAlarmOwner = .rx) (harmed : r.armedAlarmUs = alarm)
    (halarm : r.rxAlarmUs = alarm) (busDominant : Bool) :
    (r.onTimerAlarm busDominant).messages = ((takenRx r).processRxTimer busDominant).1.messages
      ∧ (r.onTimerAlarm busDominant).rxState = ((takenRx r).processRxTimer busDominant).1.rxState
      ∧ (r.onTimerAlarm busDominant).dominant
        = ((takenRx r).processRxTimer busDominant).1.dominant := by
  have hrearm : ∀ d : Driver, d.rearmTimer.messages = d.messages
      ∧ d.rearmTimer.rxState = d.rxState ∧ d.rearmTimer.dominant = d.dominant := by
    intro d
    rw [Driver.rearmTimer]
    split_ifs
    all_goals exact ⟨rfl, rfl, rfl⟩
  rw [onTimerAlarm_rx_eq howner harmed halarm, (hrearm _).1, (hrearm _).2.1, (hrearm _).2.2,
    Driver.onRxAlarm]
  dsimp only
  split_ifs
  all_goals exact ⟨rfl, rfl, rfl⟩

theorem onTimerAlarm_rx_done {d : Driver} {busDominant : Bool}
    (howner : r.armedAlarmOwner = .rx) (harmed : r.armedAlarmUs = alarm)
    (halarm : r.rxAlarmUs = alarm)
    (hdone : (takenRx r).processRxTimer busDominant = (d, 0)) (hrx : d.rxAlarmUs = 0)
    (htx : d.txAlarmUs = 0) :
    r.onTimerAlarm busDominant = { d with armedAlarmOwner := .none, armedAlarmUs := 0 } := by
  rw [onTimerAlarm_rx_eq howner harmed halarm, Driver.onRxAlarm]
  change (if 0 < ((takenRx r).processRxTimer busDominant).2 then _
    else ((takenRx r).processRxTimer busDominant).1).rearmTimer = _
  rw [hdone, if_neg (Nat.lt_irrefl 0), Driver.rearmTimer, if_neg (fun h => h.1 hrx),
    if_neg (fun h => h htx)]

theorem ReceiverAt.validate {position : Int} {pulse : Bool}
    (h : ReceiverAt r .startBitPending position pulse alarm start before octets) :
    ReceiverAt (r.onTimerAlarm true) .receive (-1) false (alarm + 37) start before octets
      ∧ (r.onTimerAlarm true).rxByte = 0 := by
  have hstate : (takenRx r).rxState = .startBitPending := h.state
  have hdone : (takenRx r).processRxTimer true
      = ({ takenRx r with
          rxZeroDetected := false, rxByte := 0, rxBitPosition := -1, rxState := .receive }, 37) := by
    rw [Driver.processRxTimer, hstate]
    rfl
  rw [onTimerAlarm_rx h.owner h.armed h.rxAlarm hdone (by decide) h.txIdle h.txAlarm]
  exact ⟨⟨rfl, rfl, rfl, rfl, h.txAlarm, rfl, rfl, h.started, h.txIdle, h.silent, h.errors,
    h.notAck, h.got.1, h.got.2, h.got.3⟩, rfl⟩

theorem ReceiverAt.skipStart (h : ReceiverAt r .receive (-1) false alarm start before octets)
    (busDominant : Bool) :
    ReceiverAt (r.onTimerAlarm busDominant) .receive 0 false (alarm + 104) start before octets
      ∧ (r.onTimerAlarm busDominant).rxByte = r.rxByte := by
  have hstate : (takenRx r).rxState = .receive := h.state
  have hbit : (takenRx r).rxBitPosition = -1 := h.bit
  have hdone : (takenRx r).processRxTimer busDominant
      = ({ takenRx r with rxBitPosition := 0 }, 104) := by
    rw [Driver.processRxTimer, hstate]
    dsimp only
    rw [Driver.processReceiveBit, if_pos hbit]
    rfl
  rw [onTimerAlarm_rx h.owner h.armed h.rxAlarm hdone (by decide) h.txIdle h.txAlarm]
  exact ⟨⟨h.state, rfl, h.pulse, rfl, h.txAlarm, rfl, rfl, h.started, h.txIdle, h.silent, h.errors,
    h.notAck, h.got.1, h.got.2, h.got.3⟩, rfl⟩

theorem toNat_or_shiftLeft {received : UInt8} {position : Nat} (hposition : position < 8)
    (h : received.toNat < 2 ^ position) :
    (received ||| (1 <<< UInt8.ofNat position)).toNat = received.toNat + 2 ^ position := by
  have hlt : 2 ^ position < 2 ^ 8 := Nat.pow_lt_pow_right (by decide) hposition
  have hshift : (1 <<< UInt8.ofNat position : UInt8).toNat = 2 ^ position := by
    have hof : (UInt8.ofNat position).toNat = position := by
      rw [UInt8.toNat_ofNat']
      omega
    rw [UInt8.toNat_shiftLeft, hof, Nat.mod_eq_of_lt hposition, UInt8.toNat_one, Nat.one_shiftLeft,
      Nat.mod_eq_of_lt hlt]
  rw [UInt8.toNat_or, hshift, Nat.or_two_pow_eq_add_of_lt h]

theorem lowBits_succ {received : UInt8} {position : Nat} (hposition : position < 8)
    (h : received.toNat = octet.toNat % 2 ^ position) :
    (if octet.toNat.testBit position then received ||| (1 <<< UInt8.ofNat position)
      else received).toNat = octet.toNat % 2 ^ (position + 1) := by
  rw [Nat.mod_pow_succ, ← h, ← Nat.toNat_testBit]
  cases octet.toNat.testBit position with
  | true =>
    have hlt : received.toNat < 2 ^ position := by
      rw [h]
      exact Nat.mod_lt _ (Nat.two_pow_pos position)
    rw [if_pos rfl, toNat_or_shiftLeft hposition hlt]
    simp
  | false => simp

theorem parityBit_bitAt {d : Driver} (h : d.rxByte = octet) : d.parityBit (bitAt octet 8) = d := by
  rw [Driver.parityBit, h]
  exact if_neg (not_not.mpr rfl)

theorem ReceiverAt.sample {position : Nat} (hposition : position ≤ 8)
    (h : ReceiverAt r .receive position (!bitAt octet position) alarm start before octets)
    (hbyte : r.rxByte.toNat = octet.toNat % 2 ^ min position 8) (busDominant : Bool) :
    ReceiverAt (r.onTimerAlarm busDominant) .receive (position + 1 : Nat) false (alarm + 104) start
        before octets
      ∧ (r.onTimerAlarm busDominant).rxByte.toNat = octet.toNat % 2 ^ min (position + 1) 8 := by
  have hstate : (takenRx r).rxState = .receive := h.state
  have hbit : (takenRx r).rxBitPosition = position := h.bit
  have hpulse : (takenRx r).rxZeroDetected = !bitAt octet position := h.pulse
  have hstart : ¬((position : Int) = -1) := by omega
  by_cases hdata : position < 8
  · have hrange : isDataBitPosition (position : Int) = true := by
      rw [isDataBitPosition, Bool.and_eq_true, decide_eq_true_eq, decide_eq_true_eq]
      omega
    have hdone : (takenRx r).processRxTimer busDominant
        = ({ takenRx r with
            rxZeroDetected := false
            rxByte := if octet.toNat.testBit position
              then r.rxByte ||| (1 <<< UInt8.ofNat position) else r.rxByte
            rxBitPosition := (position + 1 : Nat) }, 104) := by
      rw [Driver.processRxTimer, hstate]
      dsimp only
      rw [Driver.processReceiveBit, hbit, hpulse, if_neg hstart, if_pos hrange, Bool.not_not, bitAt,
        if_pos hdata, Int.toNat_natCast]
      rfl
    rw [Nat.min_eq_left (by omega)] at hbyte
    rw [onTimerAlarm_rx h.owner h.armed h.rxAlarm hdone (by decide) h.txIdle h.txAlarm,
      Nat.min_eq_left (by omega)]
    exact ⟨⟨h.state, rfl, rfl, rfl, h.txAlarm, rfl, rfl, h.started, h.txIdle, h.silent, h.errors,
      h.notAck, h.got.1, h.got.2, h.got.3⟩, lowBits_succ hdata hbyte⟩
  · obtain rfl : position = 8 := by omega
    have hoctet : (takenRx r).rxByte = octet := by
      apply UInt8.toNat_inj.mp
      rw [Nat.min_eq_left (by omega), Nat.mod_eq_of_lt octet.toNat_lt] at hbyte
      exact hbyte
    have hdone : (takenRx r).processRxTimer busDominant
        = ({ takenRx r with rxZeroDetected := false, rxBitPosition := 9 }, 104) := by
      rw [Driver.processRxTimer, hstate]
      dsimp only
      rw [Driver.processReceiveBit, hbit, hpulse, if_neg hstart, if_neg (by decide),
        if_pos (by decide), Bool.not_not, parityBit_bitAt]
      · rfl
      · exact hoctet
    rw [onTimerAlarm_rx h.owner h.armed h.rxAlarm hdone (by decide) h.txIdle h.txAlarm]
    exact ⟨⟨h.state, rfl, rfl, rfl, h.txAlarm, rfl, rfl, h.started, h.txIdle, h.silent, h.errors,
      h.notAck, h.got.1, h.got.2, h.got.3⟩, hbyte⟩

theorem followHeader_eq (d : Driver) :
    ∃ extended group hi lo pending messages,
      d.followHeader = { d with
        rxExtendedFrame := extended, rxExtGroupAddressed := group, rxDstHi := hi, rxDstLo := lo
        pendingAckByte := pending, messages := messages } := by
  have harmed : ∀ (d : Driver) isGroupAddressed, ∃ pending messages,
      d.armEarlyAckIfAddressed isGroupAddressed
        = { d with pendingAckByte := pending, messages := messages } := by
    intro d isGroupAddressed
    rw [armEarlyAckIfAddressed_eq]
    split
    · exact ⟨_, _, rfl⟩
    · exact ⟨_, _, rfl⟩
  unfold Driver.followHeader
  split_ifs
  -- the octets that carry nothing of the address only move a field
  all_goals first
    | exact ⟨_, _, _, _, _, _, rfl⟩
    | skip
  · obtain ⟨pending, messages, heq⟩ := harmed { d with rxDstLo := d.rxByte } d.rxExtGroupAddressed
    exact ⟨_, _, _, _, pending, messages, heq⟩
  · obtain ⟨pending, messages, heq⟩ := harmed d (d.rxByte &&& 0x80 != 0)
    exact ⟨_, _, _, _, pending, messages, heq⟩

theorem endOfCharacter_eq (d : Driver) :
    ∃ extended group hi lo pending messages,
      d.endOfCharacter true = ({ d with
        rxExtendedFrame := extended, rxExtGroupAddressed := group, rxDstHi := hi, rxDstLo := lo
        pendingAckByte := pending, messages := messages
        rxByteCount := d.rxByteCount + 1, rxState := .waitMoreData }, 312) := by
  obtain ⟨extended, group, hi, lo, pending, messages, hheader⟩ :=
    followHeader_eq (d.queueMessage (.data d.rxByte))
  refine ⟨extended, group, hi, lo, pending, messages, ?_⟩
  rw [Driver.endOfCharacter, if_pos rfl]
  dsimp only
  rw [hheader]
  rfl

theorem Got.endOfCharacter {d : Driver} (h : Got d before octets) :
    Got (d.endOfCharacter true).1 before (octets ++ [d.rxByte]) := by
  let counted := d.queueMessage (.data d.rxByte)
  -- The octet is queued first, and the header is followed on the driver that has queued it.
  refine ⟨?_, ?_, ?_⟩
  · have hmessages : (d.endOfCharacter true).1.messages
        = d.messages ++ [.data d.rxByte] ++ d.header.notes d.published d.rxByte :=
      messages_followHeader counted
    rw [hmessages, h.messages, h.header, h.published, Header.report_append]
    simp only [Header.report, List.append_nil, List.append_assoc, List.singleton_append]
  · have hheader : (d.endOfCharacter true).1.header = d.header.follow d.published d.rxByte :=
      header_followHeader counted
    rw [hheader, h.header, h.published, List.foldl_append]
    rfl
  · obtain ⟨extended, group, hi, lo, pending, messages, hend⟩ := endOfCharacter_eq d
    rw [hend]
    exact h.published

theorem ReceiverAt.stop (h : ReceiverAt r .receive 9 false alarm start before octets)
    (hbyte : r.rxByte = octet) (busDominant : Bool) :
    ReceiverAt (r.onTimerAlarm busDominant) .waitMoreData 9 false (alarm + 312) start before
      (octets ++ [octet]) := by
  have hstate : (takenRx r).rxState = .receive := h.state
  have hbit : (takenRx r).rxBitPosition = 9 := h.bit
  have hpulse : (takenRx r).rxZeroDetected = false := h.pulse
  have htx : (takenRx r).txState = .idle := h.txIdle
  have hdone : (takenRx r).processRxTimer busDominant
      = ({ takenRx r with rxZeroDetected := false, rxBitPosition := 9 } : Driver).endOfCharacter
        true := by
    rw [Driver.processRxTimer, hstate]
    dsimp only
    rw [Driver.processReceiveBit, hbit, hpulse, if_neg (by decide), if_neg (by decide),
      if_neg (by decide), if_pos (by decide), Driver.rxHandleStop, htx]
    rfl
  have hgot : Got ({ takenRx r with rxZeroDetected := false, rxBitPosition := 9 } : Driver) before
      octets := ⟨h.got.1, h.got.2, h.got.3⟩
  have hmore := hgot.endOfCharacter
  obtain ⟨extended, group, hi, lo, pending, messages, hend⟩ :=
    endOfCharacter_eq { takenRx r with rxZeroDetected := false, rxBitPosition := 9 }
  rw [hend] at hdone hmore
  rw [onTimerAlarm_rx h.owner h.armed h.rxAlarm hdone (by decide) h.txIdle h.txAlarm]
  rw [← hbyte]
  exact ⟨rfl, rfl, rfl, rfl, h.txAlarm, rfl, rfl, h.started, h.txIdle, h.silent, h.errors, h.notAck,
    hmore.1, hmore.2, hmore.3⟩

theorem onRxEdge_idle {d : Driver} (htx : d.txState = .idle) (nowUs : Nat) :
    d.onRxEdge nowUs =
      if d.rxState = .idle ∨ d.rxState = .waitMoreData then
        ({ d with rxZeroDetected := true }).startCharacter nowUs
      else { d with rxZeroDetected := true } := by
  have hquiet : ({ d with rxZeroDetected := true } : Driver).detectCollision
      = { d with rxZeroDetected := true } := by
    rw [Driver.detectCollision, if_pos]
    exact .inl (by rw [htx]; decide)
  rw [Driver.onRxEdge, hquiet]
  dsimp only
  rw [htx, if_neg (by decide)]

theorem ReceiverAt.pulsed {position : Int} {pulse : Bool}
    (h : ReceiverAt r .receive position pulse alarm start before octets) (nowUs : Nat) :
    ReceiverAt (r.onRxEdge nowUs) .receive position true alarm start before octets
      ∧ (r.onRxEdge nowUs).rxByte = r.rxByte := by
  have hstate : ¬(r.rxState = .idle ∨ r.rxState = .waitMoreData) := by
    rw [h.state]
    decide
  rw [onRxEdge_idle h.txIdle, if_neg hstate]
  exact ⟨⟨h.state, h.bit, rfl, h.rxAlarm, h.txAlarm, h.owner, h.armed, h.started, h.txIdle,
    h.silent, h.errors, h.notAck, h.got.1, h.got.2, h.got.3⟩, rfl⟩

theorem rearmTimer_rx {d : Driver} (hrx : d.rxAlarmUs ≠ 0) (htx : d.txAlarmUs = 0) :
    d.rearmTimer = armedRx d d.rxAlarmUs := by
  rw [Driver.rearmTimer, if_pos ⟨hrx, .inl htx⟩]
  rfl

theorem startCharacter_next {d : Driver} {nowUs : Nat} (hstate : d.rxState = .waitMoreData)
    (hfresh : nowUs ≤ d.lastCharStartUs + 1664) (htx : d.txAlarmUs = 0) :
    d.startCharacter nowUs
      = armedRx { d with lastCharStartUs := nowUs, rxState := .startBitPending } (nowUs + 15) := by
  have hstale : ¬(d.rxState = .waitMoreData ∧ rxInterByteStaleUs < nowUs - d.lastCharStartUs) := by
    rintro ⟨-, hlate⟩
    rw [rxInterByteStaleUs, bitTimeUs] at hlate
    omega
  have hidle : ¬d.rxState = .idle := by
    rw [hstate]
    decide
  rw [Driver.startCharacter, if_neg hstale, if_neg hidle, rearmTimer_rx]
  · rfl
  · exact Nat.succ_ne_zero _
  · exact htx

theorem startCharacter_first {d : Driver} (hstate : d.rxState = .idle) (htx : d.txAlarmUs = 0)
    (nowUs : Nat) :
    d.startCharacter nowUs
      = armedRx { d with
          pendingAckByte := 0, lastCharStartUs := nowUs, rxState := .startBitPending }
        (nowUs + 15) := by
  have hstale : ¬(d.rxState = .waitMoreData ∧ rxInterByteStaleUs < nowUs - d.lastCharStartUs) := by
    rw [hstate]
    exact fun h => nomatch h.1
  rw [Driver.startCharacter, if_neg hstale, if_pos hstate, rearmTimer_rx]
  · rfl
  · exact Nat.succ_ne_zero _
  · exact htx

theorem ReceiverAt.nextCharacter {position : Int} {pulse : Bool} {nowUs : Nat}
    (h : ReceiverAt r .waitMoreData position pulse alarm start before octets)
    (hnow : nowUs ≤ start + 1664) :
    ReceiverAt (r.onRxEdge nowUs) .startBitPending position true (nowUs + 15) nowUs before
      octets := by
  have hfresh : nowUs ≤ r.lastCharStartUs + 1664 := by
    rw [h.started]
    exact hnow
  have hnext : ({ r with rxZeroDetected := true } : Driver).startCharacter nowUs = _ :=
    startCharacter_next h.state hfresh h.txAlarm
  rw [onRxEdge_idle h.txIdle, if_pos (.inr h.state), hnext]
  exact ⟨rfl, h.bit, rfl, rfl, h.txAlarm, rfl, rfl, rfl, h.txIdle, h.silent, h.errors, h.notAck, h.got.1, h.got.2, h.got.3⟩

end Receiver

/-- An idle driver: as `init` leaves it, and as the end of a telegram does. -/
structure Idle (d : Driver) : Prop where
  rxState : d.rxState = .idle
  txState : d.txState = .idle
  rxAlarm : d.rxAlarmUs = 0
  txAlarm : d.txAlarmUs = 0
  owner : d.armedAlarmOwner = .none
  silent : d.dominant = false
  errors : d.rxErrors = 0
  notAck : d.sendingAck = false

/-- The driver that `init` leaves is idle. -/
theorem idle_default : Idle {} := ⟨rfl, rfl, rfl, rfl, rfl, rfl, rfl, rfl⟩

theorem Idle.firstCharacter {r : Driver} (h : Idle r) (nowUs : Nat) :
    ReceiverAt (r.onRxEdge nowUs) .startBitPending r.rxBitPosition true (nowUs + 15) nowUs r [] := by
  have hfirst : ({ r with rxZeroDetected := true } : Driver).startCharacter nowUs = _ :=
    startCharacter_first (by exact h.rxState) (by exact h.txAlarm) nowUs
  rw [onRxEdge_idle h.txState, if_pos (.inl h.rxState), hfirst]
  exact ⟨rfl, rfl, rfl, rfl, h.txAlarm, rfl, rfl, rfl, h.txState, h.silent, h.errors, h.notAck,
    (List.append_nil _).symm, rfl, rfl⟩

theorem Idle.send {s : Driver} {octet : UInt8} {rest : List UInt8} (h : Idle s)
    (hlength : (octet :: rest).length ≤ maxTelegramSize) (nowUs : Nat) :
    (s.send (octet :: rest) nowUs).2 = true
      ∧ Waiting (s.send (octet :: rest) nowUs).1 (nowUs + 104) octet rest := by
  have hslot : (s.txState == .waitingSlot && s.sendingAck && s.txTelegramLength == 0) = false := by
    rw [h.notAck, Bool.and_false, Bool.false_and]
  have hfits : ¬(octet :: rest = [] ∨ maxTelegramSize < (octet :: rest).length) := by
    rintro (hempty | hlong)
    · exact List.cons_ne_nil octet rest hempty
    · omega
  have hfree : ¬(s.txState ≠ .idle ∧ false = false) := fun hbusy => hbusy.1 h.txState
  rw [Driver.send, hslot]
  dsimp only
  rw [if_neg hfits, if_neg hfree, if_neg (by decide), rearmTimer_tx]
  · exact ⟨rfl, rfl, h.rxState, h.silent, rfl, h.rxAlarm, rfl, rfl, h.notAck, rfl, rfl⟩
  · exact h.rxAlarm
  · exact Nat.succ_ne_zero _

/-- What is queued for a telegram without an error: its octets, the notes of an acknowledgement that it
arms, and its end. -/
def Driver.reports (d : Driver) (octets : List UInt8) : List Message :=
  d.header.begun.report d.published octets ++ [.frameEnd 0]

theorem filter_reports (d : Driver) (octets : List UInt8) :
    (d.reports octets).filter Message.ofFrame = octets.map .data ++ [.frameEnd 0] := by
  rw [Driver.reports, List.filter_append, Header.filter_report]
  rfl

theorem all_reports (d : Driver) (octets : List UInt8) (hroom : octets.length ≤ 512) :
    (d.reports octets).all Message.ofFrame = !d.header.decides d.published octets := by
  rw [Driver.reports, List.all_append, Header.all_report rfl octets hroom]
  exact Bool.and_true _

/-- The receiver has ended a telegram of `octets`; it is idle again unless it is to acknowledge. -/
structure Ended (r before : Driver) (octets : List UInt8) : Prop where
  messages : r.messages = before.messages ++ before.reports octets
  state : r.rxState = .idle
  silent : r.dominant = false
  idle : (before.reports octets).all Message.ofFrame = true → Idle r

theorem ReceiverAt.finish {r before : Driver} {alarm start : Nat} {octets : List UInt8}
    {position : Int}
    (h : ReceiverAt r .waitMoreData position false alarm start before octets)
    (busDominant : Bool) :
    Ended (r.onTimerAlarm busDominant) before octets := by
  obtain ⟨hmessages, hidle, hsilent⟩ :=
    onTimerAlarm_rx_kept h.owner h.armed h.rxAlarm busDominant
  have hstate : (takenRx r).rxState = .waitMoreData := h.state
  have htx : (takenRx r).finishRxTelegram.txState = .idle := h.txIdle
  have hended : (takenRx r).finishRxTelegram.messages
      = before.messages ++ before.reports octets := by
    have hend : (takenRx r).finishRxTelegram.messages = r.messages ++ [.frameEnd r.rxErrors] := rfl
    rw [hend, h.got.messages, h.errors, List.append_assoc]
    rfl
  have htimer : (takenRx r).processRxTimer busDominant = (takenRx r).rxHandleTelegramComplete := by
    rw [Driver.processRxTimer, hstate]
  rw [Driver.rxHandleTelegramComplete] at htimer
  refine ⟨?_, ?_, ?_, ?_⟩
  · rw [hmessages, htimer]
    split_ifs with hpending hbusy
    · exact hended
    · exact absurd htx hbusy.1
    · exact hended
  · rw [hidle, htimer]
    split_ifs
    all_goals rfl
  · rw [hsilent, htimer]
    split_ifs
    all_goals exact h.silent
  · intro hall
    have hpending : (takenRx r).finishRxTelegram.pendingAckByte = 0 := by
      rw [Driver.reports, List.all_append, Bool.and_eq_true] at hall
      -- The first edge of the telegram cleared what was pending, and no note was queued since.
      have hpending := congrArg Header.pendingAckByte h.got.header
      rw [Header.pending_report, if_pos hall.1] at hpending
      exact hpending
    rw [if_pos hpending] at htimer
    rw [onTimerAlarm_rx_done h.owner h.armed h.rxAlarm htimer rfl h.txAlarm]
    exact ⟨rfl, h.txIdle, rfl, h.txAlarm, rfl, h.silent, rfl, h.notAck⟩

end KnxStack.Physical
