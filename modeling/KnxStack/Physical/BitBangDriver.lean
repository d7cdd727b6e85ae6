import KnxStack.Lib.Words

/-!
# The bit-banging driver

`BitBangDriverTimerIsrT` (`physical/bitbang_driver_timer_isr.cpp`): a TP1 driver out of two interrupt
handlers. The timer alarm moves the transmitter from bit to bit and lets the receiver take its samples;
the edge of the bus starts a character and marks a zero. Every handler returns the delay until its next
alarm, and `onTimerAlarm` adds it to the time at which the alarm was due.

The driver is one that `init` has set up, with the default bit timings. Time is in microseconds. The
link counters and the timing records are left out, since nothing reads them; the message ring is the
list of what was queued, which a consumer that drains it sees.
-/

set_option autoImplicit false

namespace KnxStack.Physical

open KnxStack.Lib.Words

/-! ## Timings -/

/-- `serialBitTimeUs`, as `bitTimeUs` returns it. -/
def bitTimeUs : Nat := 104
/-- `zeroActiveTimeUs`. -/
def zeroActiveTimeUs : Nat := 35
/-- `zeroEqualizationTimeUs`. -/
def zeroEqualizationTimeUs : Nat := 69
/-- `bitSamplingOffsetUs`. -/
def bitSamplingOffsetUs : Nat := 52
/-- `startBitValidationTimeUs`. -/
def startBitValidationTimeUs : Nat := 15
/-- `interByteTimeUs`. -/
def interByteTimeUs : Nat := bitTimeUs * 2
/-- `ackTimeoutUs`. -/
def ackTimeoutUs : Nat := bitTimeUs * 35
/-- `waitMoreDataTimeoutUs`. -/
def waitMoreDataTimeoutUs : Nat := bitTimeUs * 3
/-- `rxInterByteStaleUs`. -/
def rxInterByteStaleUs : Nat := bitTimeUs * 16
/-- `telegramCompleteToAckStartDelayUs`. -/
def telegramCompleteToAckStartDelayUs : Nat := bitTimeUs * (15 - 2) - bitSamplingOffsetUs
/-- `MAX_TELEGRAM_SIZE`. -/
def maxTelegramSize : Nat := 263

/-! ## State -/

/-- `RxState`. -/
inductive RxState where
  | idle
  | startBitPending
  | receive
  | waitMoreData
  deriving DecidableEq, Repr

/-- `TxState`. -/
inductive TxState where
  | idle
  | waitingSlot
  | sendingZeroActive
  | sendingZeroEqualization
  | sendingOne
  | waitingAck
  deriving DecidableEq, Repr

/-- `AlarmOwner`. -/
inductive AlarmOwner where
  | none
  | rx
  | tx
  deriving DecidableEq, Repr

/-- `Message`, by its `MessageType`. -/
inductive Message where
  | data (octet : UInt8)
  | parityError
  | framingError
  /-- `End`, with the error flags. -/
  | frameEnd (errors : UInt8)
  | txAckResponse (octet : UInt8)
  | collision
  | txComplete
  | earlyAckArmed (octet : UInt8)
  | dlAckSuppressed (state : TxState)
  | dlAckTxStart (octet : UInt8)
  | dlAckDone (echoSeen : Bool)
  deriving DecidableEq, Repr

/-- `RX_ERROR_PARITY`. -/
def rxErrorParity : UInt8 := 0x01
/-- `RX_ERROR_FRAMING`. -/
def rxErrorFraming : UInt8 := 0x02
/-- `ACK_BYTE_NONE`. -/
def ackByteNone : UInt8 := 0xFF
/-- `ACK_BYTE_ACK`. -/
def ackByteAck : UInt8 := 0xCC
/-- `ACK_BYTE_BUSY`. -/
def ackByteBusy : UInt8 := 0xC0

/-- `BitBangDriverTimerIsrT`. An alarm of zero is none, and position -1 is the start bit. -/
structure Driver where
  rxZeroDetected : Bool := false
  rxState : RxState := .idle
  txState : TxState := .idle
  /-- `FLAG_SENDING_ACK`; the other flag is never set. -/
  sendingAck : Bool := false
  armedAlarmOwner : AlarmOwner := .none
  armedAlarmUs : Nat := 0
  rxAlarmUs : Nat := 0
  txAlarmUs : Nat := 0
  lastCharStartUs : Nat := 0
  rxByte : UInt8 := 0
  rxBitPosition : Int := -1
  rxErrors : UInt8 := 0
  pendingAckByte : UInt8 := 0
  rxByteCount : UInt8 := 0
  rxDstHi : UInt8 := 0
  rxDstLo : UInt8 := 0
  rxExtendedFrame : Bool := false
  rxExtGroupAddressed : Bool := false
  ownAddressRaw : UInt16 := 0
  localBusy : Bool := false
  ackGroupAddresses : List UInt16 := []
  dlAckEchoSeen : Bool := false
  dlAckRxErrors : UInt8 := 0
  txCurrentByte : UInt8 := 0
  txBitPosition : Int := -1
  txBytePosition : Nat := 0
  txTelegramLength : Nat := 0
  txWaitTime : Nat := 0
  txBuffer : List UInt8 := []
  /-- The transmit pin: the driver pulls the bus low. -/
  dominant : Bool := false
  messages : List Message := []
  deriving DecidableEq, Repr

/-- `calculateParityBit`. -/
def calculateParityBit (octet : UInt8) : Bool :=
  ((List.range 8).filter octet.toNat.testBit).length % 2 == 1

/-- `isDataBitPosition`. -/
def isDataBitPosition (position : Int) : Bool := 0 ≤ position && position ≤ 7

namespace Driver

/-- `queueMessage`. -/
def queueMessage (d : Driver) (message : Message) : Driver :=
  { d with messages := d.messages ++ [message] }

/-- `resetRxSamplingState`. -/
def resetRxSamplingState (d : Driver) : Driver :=
  { d with rxState := .idle, rxByte := 0, rxBitPosition := -1, rxZeroDetected := false }

/-- `rearmTimer`: the earlier alarm, and of two at one time that of the receiver. -/
def rearmTimer (d : Driver) : Driver :=
  if d.rxAlarmUs ≠ 0 ∧ (d.txAlarmUs = 0 ∨ d.rxAlarmUs ≤ d.txAlarmUs) then
    { d with armedAlarmOwner := .rx, armedAlarmUs := d.rxAlarmUs }
  else if d.txAlarmUs ≠ 0 then { d with armedAlarmOwner := .tx, armedAlarmUs := d.txAlarmUs }
  else { d with armedAlarmOwner := .none, armedAlarmUs := 0 }

/-! ## Receiving -/

/-- `armEarlyAckIfAddressed`. -/
def armEarlyAckIfAddressed (d : Driver) (isGroupAddressed : Bool) : Driver :=
  let destRaw := joinBytes d.rxDstHi d.rxDstLo
  let addressed :=
    if isGroupAddressed then destRaw == 0x0000 || d.ackGroupAddresses.contains destRaw
    else d.ownAddressRaw != 0 && destRaw != 0xFFFF && destRaw == d.ownAddressRaw
  if addressed then
    let ackByte := if d.localBusy then ackByteBusy else ackByteAck
    ({ d with pendingAckByte := ackByte }).queueMessage (.earlyAckArmed ackByte)
  else d

/-- The header of a telegram, followed octet by octet in `rxHandleStop`. -/
def followHeader (d : Driver) : Driver :=
  if d.rxByteCount = 0 then { d with rxExtendedFrame := d.rxByte &&& 0xC0 == 0x00 }
  else if d.rxExtendedFrame then
    if d.rxByteCount = 1 then { d with rxExtGroupAddressed := d.rxByte &&& 0x80 != 0 }
    else if d.rxByteCount = 4 then { d with rxDstHi := d.rxByte }
    else if d.rxByteCount = 5 then
      ({ d with rxDstLo := d.rxByte }).armEarlyAckIfAddressed d.rxExtGroupAddressed
    else d
  else
    if d.rxByteCount = 3 then { d with rxDstHi := d.rxByte }
    else if d.rxByteCount = 4 then { d with rxDstLo := d.rxByte }
    else if d.rxByteCount = 5 then d.armEarlyAckIfAddressed (d.rxByte &&& 0x80 != 0)
    else d

/-- `finishReceivedAck`. -/
def finishReceivedAck (d : Driver) : Driver × UInt8 :=
  ({ d.resetRxSamplingState with rxErrors := 0 },
    if d.rxErrors ≠ 0 then ackByteNone else d.rxByte)

/-- The end of `rxHandleStop` outside the window of an acknowledgement. -/
def endOfCharacter (d : Driver) (bit : Bool) : Driver × Nat :=
  let received :=
    if bit then
      let followed := (d.queueMessage (.data d.rxByte)).followHeader
      { followed with rxByteCount := followed.rxByteCount + 1 }
    else d
  ({ received with rxState := .waitMoreData }, waitMoreDataTimeoutUs)

/-- `rxHandleStop`. -/
def rxHandleStop (d : Driver) (bit : Bool) : Driver × Nat :=
  let receivingAck := d.txState == .waitingAck
  let checked :=
    if bit then d
    else
      let marked := { d with rxErrors := d.rxErrors ||| rxErrorFraming }
      if receivingAck then marked else marked.queueMessage .framingError
  if receivingAck then
    let finished := checked.finishReceivedAck
    (({ finished.1 with txState := .idle, txAlarmUs := 0 }).queueMessage
      (.txAckResponse finished.2), 0)
  else checked.endOfCharacter bit

/-- The parity bit of `processReceiveBit`. -/
def parityBit (d : Driver) (bit : Bool) : Driver :=
  if bit ≠ calculateParityBit d.rxByte then
    let marked := { d with rxErrors := d.rxErrors ||| rxErrorParity }
    if d.txState ≠ .waitingAck then marked.queueMessage .parityError else marked
  else d

/-- `processReceiveBit`. -/
def processReceiveBit (d : Driver) : Driver × Nat :=
  if d.rxBitPosition = -1 then ({ d with rxBitPosition := 0 }, bitTimeUs)
  else
    let bit := !d.rxZeroDetected
    let sampled := { d with rxZeroDetected := false }
    if isDataBitPosition d.rxBitPosition then
      ({ sampled with
          rxByte := if bit then d.rxByte ||| (1 <<< UInt8.ofNat d.rxBitPosition.toNat) else d.rxByte
          rxBitPosition := d.rxBitPosition + 1 },
        bitTimeUs)
    else if d.rxBitPosition = 8 then ({ sampled.parityBit bit with rxBitPosition := 9 }, bitTimeUs)
    else if d.rxBitPosition = 9 then sampled.rxHandleStop bit
    else (sampled, 0)

/-- `processStartBit`. -/
def processStartBit (d : Driver) (busDominant : Bool) : Driver × Nat :=
  if !busDominant then ({ d with rxZeroDetected := false, rxState := .idle }, 0)
  else
    ({ d with rxZeroDetected := false, rxByte := 0, rxBitPosition := -1, rxState := .receive },
      bitSamplingOffsetUs - startBitValidationTimeUs)

/-- `finishRxTelegram`. -/
def finishRxTelegram (d : Driver) : Driver :=
  ({ d with
      rxErrors := 0, rxByteCount := 0, rxDstHi := 0, rxDstLo := 0, rxExtendedFrame := false
      rxExtGroupAddressed := false, rxState := .idle }).queueMessage (.frameEnd d.rxErrors)

/-- `rxHandleTelegramComplete`. -/
def rxHandleTelegramComplete (d : Driver) : Driver × Nat :=
  let finished := d.finishRxTelegram
  if finished.pendingAckByte = 0 then (finished, 0)
  else if finished.txState ≠ .idle ∧ finished.txState ≠ .waitingSlot then
    ({ finished.queueMessage (.dlAckSuppressed finished.txState) with pendingAckByte := 0 }, 0)
  else
    ({ finished with dlAckRxErrors := d.rxErrors, sendingAck := true, txState := .waitingSlot },
      telegramCompleteToAckStartDelayUs)

/-- `processRxTimer`. -/
def processRxTimer (d : Driver) (busDominant : Bool) : Driver × Nat :=
  match d.rxState with
  | .idle => (d, 0)
  | .startBitPending => d.processStartBit busDominant
  | .receive => d.processReceiveBit
  | .waitMoreData => d.rxHandleTelegramComplete

/-! ## Transmitting -/

/-- `sendBit`. -/
def sendBit (d : Driver) (bit : Bool) : Driver × Nat :=
  if bit then ({ d with txState := .sendingOne }, bitTimeUs)
  else ({ d with txState := .sendingZeroActive, dominant := true }, zeroActiveTimeUs)

/-- `txFrameExpectsAck`. -/
def txFrameExpectsAck (d : Driver) : Bool :=
  let at' := fun position => d.txBuffer.getD position 0
  let standardFrame := at' 0 &&& 0x80 != 0
  let addressTypePos := if standardFrame then 5 else 1
  let destHiPos := if standardFrame then 3 else 4
  if d.txTelegramLength = 0 then false
  else if at' 0 &&& 0x02 ≠ 0 then true
  else if d.txTelegramLength ≤ addressTypePos ∨ d.txTelegramLength ≤ destHiPos + 1 then false
  else if at' addressTypePos &&& 0x80 ≠ 0 then false
  else joinBytes (at' destHiPos) (at' (destHiPos + 1)) != 0xFFFF

/-- The end of an acknowledgement that was sent. -/
def endOfAck (d : Driver) : Driver × Nat :=
  let done := ({ d.queueMessage (.dlAckDone d.dlAckEchoSeen) with
    sendingAck := false }).resetRxSamplingState
  if 0 < done.txTelegramLength then ({ done with txState := .waitingSlot }, bitTimeUs)
  else ({ done with txState := .idle }, 0)

/-- The end of a frame that was sent. -/
def endOfFrame (d : Driver) : Driver × Nat :=
  let sent := { d.resetRxSamplingState with txTelegramLength := 0 }
  if d.txFrameExpectsAck then
    ({ sent with rxErrors := 0, txState := .waitingAck }, bitTimeUs + ackTimeoutUs)
  else (({ sent with txState := .idle }).queueMessage .txComplete, 0)

/-- The stop bit of `processEndOfTxBit`. -/
def endOfTxCharacter (d : Driver) : Driver × Nat :=
  if d.sendingAck then d.endOfAck
  else
    let next := { d with txBytePosition := d.txBytePosition + 1, txBitPosition := -1 }
    if next.txTelegramLength ≤ next.txBytePosition then next.endOfFrame
    else
      ({ next with txCurrentByte := next.txBuffer.getD next.txBytePosition 0 },
        bitTimeUs + interByteTimeUs)

/-- `processEndOfTxBit`. -/
def processEndOfTxBit (d : Driver) (nowUs : Nat) : Driver × Nat :=
  if isDataBitPosition d.txBitPosition then
    ({ d with txBitPosition := d.txBitPosition + 1 }).sendBit
      (d.txCurrentByte.toNat.testBit d.txBitPosition.toNat)
  else if d.txBitPosition = -1 then
    ({ d with lastCharStartUs := nowUs, txBitPosition := 0 }).sendBit false
  else if d.txBitPosition = 8 then
    ({ d with txBitPosition := 9 }).sendBit (calculateParityBit d.txCurrentByte)
  else if d.txBitPosition = 9 then d.endOfTxCharacter
  else (d, 0)

/-- The bus-idle wait of `txHandleWaitingSlot`. -/
def waitForBusIdle (d : Driver) (nowUs : Nat) : Driver × Nat :=
  if d.rxState ≠ .idle then (d, bitTimeUs)
  else if bitTimeUs * d.txWaitTime ≤ nowUs - d.lastCharStartUs then
    ({ d with
        txBitPosition := -1, txBytePosition := 0
        txCurrentByte := d.txBuffer.getD 0 0 }).processEndOfTxBit nowUs
  else (d, d.lastCharStartUs + bitTimeUs * d.txWaitTime - nowUs)

/-- `txHandleWaitingSlot`. -/
def txHandleWaitingSlot (d : Driver) (nowUs : Nat) : Driver × Nat :=
  if d.sendingAck then
    let taken := { d with pendingAckByte := 0 }
    if d.pendingAckByte ≠ 0 then
      let octet :=
        if d.dlAckRxErrors ≠ 0 then d.pendingAckByte &&& ~~~ackByteBusy else d.pendingAckByte
      (({ taken with
          txCurrentByte := octet, dlAckEchoSeen := false, txBitPosition := -1
          txBytePosition := 0 }).queueMessage (.dlAckTxStart octet)).processEndOfTxBit nowUs
    else
      let standDown := { taken with sendingAck := false }
      if standDown.txTelegramLength = 0 then ({ standDown with txState := .idle }, 0)
      else standDown.waitForBusIdle nowUs
  else d.waitForBusIdle nowUs

/-- `txHandleWaitingAck`. -/
def txHandleWaitingAck (d : Driver) : Driver × Nat :=
  let dropped := if d.rxState = .idle then { d.resetRxSamplingState with rxErrors := 0 } else d
  ({ dropped.queueMessage (.txAckResponse ackByteNone) with txState := .idle }, 0)

/-- `processTxTimer`. -/
def processTxTimer (d : Driver) (nowUs : Nat) (busDominant : Bool) : Driver × Nat :=
  match d.txState with
  | .sendingOne => ({ d with dominant := false }).processEndOfTxBit nowUs
  | .sendingZeroEqualization => ({ d with dominant := false }).processEndOfTxBit nowUs
  | .sendingZeroActive =>
      ({ d with
          dlAckEchoSeen := if d.sendingAck && busDominant then true else d.dlAckEchoSeen
          dominant := false, txState := .sendingZeroEqualization },
        zeroEqualizationTimeUs)
  | .waitingAck => d.txHandleWaitingAck
  | .waitingSlot => d.txHandleWaitingSlot nowUs
  | .idle => (d, 0)

/-! ## Interrupts -/

/-- What a timeline is programmed with after its handler. -/
def nextAlarm (firedAlarmUs delayUs : Nat) : Nat := if 0 < delayUs then firedAlarmUs + delayUs else 0

/-- The alarm of the transmitter in `onTimerAlarm`. -/
def onTxAlarm (d : Driver) (firedAlarmUs : Nat) (busDominant : Bool) : Driver :=
  let done := ({ d with txAlarmUs := 0 }).processTxTimer firedAlarmUs busDominant
  { done.1 with txAlarmUs := nextAlarm firedAlarmUs done.2 }

/-- The alarm of the receiver in `onTimerAlarm`; the end of a telegram may arm the transmitter. -/
def onRxAlarm (d : Driver) (firedAlarmUs : Nat) (busDominant : Bool) : Driver :=
  let done := ({ d with rxAlarmUs := 0 }).processRxTimer busDominant
  if 0 < done.2 then
    if done.1.rxState = .idle ∧ done.1.txState = .waitingSlot then
      { done.1 with txAlarmUs := firedAlarmUs + done.2 }
    else { done.1 with rxAlarmUs := firedAlarmUs + done.2 }
  else done.1

/-- `onTimerAlarm`, at the time that was programmed. -/
def onTimerAlarm (d : Driver) (busDominant : Bool) : Driver :=
  let firedAlarmUs := d.armedAlarmUs
  let taken := { d with armedAlarmOwner := .none, armedAlarmUs := 0 }
  match d.armedAlarmOwner with
  | .none => taken.rearmTimer
  | .tx =>
      if d.txAlarmUs ≠ firedAlarmUs then taken.rearmTimer
      else (taken.onTxAlarm firedAlarmUs busDominant).rearmTimer
  | .rx =>
      if d.rxAlarmUs ≠ firedAlarmUs then taken.rearmTimer
      else (taken.onRxAlarm firedAlarmUs busDominant).rearmTimer

/-- `detectCollision`. -/
def detectCollision (d : Driver) : Driver :=
  if d.txState ≠ .sendingOne ∨ d.sendingAck then d
  else
    let aborted :=
      { d.queueMessage .collision with
        dominant := false, pendingAckByte := 0, txTelegramLength := 0, txBytePosition := 0
        txBitPosition := -1, txAlarmUs := 0, txState := .idle }
    aborted.queueMessage (.txAckResponse ackByteBusy)

/-- The start of a character in `onRxEdge`. -/
def startCharacter (d : Driver) (nowUs : Nat) : Driver :=
  let settled :=
    if d.rxState = .waitMoreData ∧ rxInterByteStaleUs < nowUs - d.lastCharStartUs then
      { d.finishRxTelegram with pendingAckByte := 0 }
    else d
  let bound := if settled.rxState = .idle then { settled with pendingAckByte := 0 } else settled
  ({ bound with
      lastCharStartUs := nowUs, rxState := .startBitPending
      rxAlarmUs := nowUs + startBitValidationTimeUs }).rearmTimer

/-- `onRxEdge`. -/
def onRxEdge (d : Driver) (nowUs : Nat) : Driver :=
  let seen := ({ d with rxZeroDetected := true }).detectCollision
  if seen.txState = .sendingZeroActive ∨ seen.txState = .sendingZeroEqualization
      ∨ seen.txState = .sendingOne then seen
  else if seen.rxState = .idle ∨ seen.rxState = .waitMoreData then seen.startCharacter nowUs
  else seen

/-- The wait by priority of `send`. -/
def waitBits (control : UInt8) : Nat := if (control >>> 2) &&& 0x01 = 0 then 61 else 64

/-- `send`. -/
def send (d : Driver) (frame : List UInt8) (nowUs : Nat) : Driver × Bool :=
  let ackSlotArmedIdle := d.txState == .waitingSlot && d.sendingAck && d.txTelegramLength == 0
  if frame = [] ∨ maxTelegramSize < frame.length then (d, false)
  else if d.txState ≠ .idle ∧ ackSlotArmedIdle = false then (d, false)
  else
    let staged :=
      { d with
        txBuffer := frame, txTelegramLength := frame.length, txBytePosition := 0
        txBitPosition := -1, txWaitTime := waitBits (frame.getD 0 0), txState := .waitingSlot }
    if ackSlotArmedIdle then (staged.rearmTimer, true)
    else (({ staged with txAlarmUs := nowUs + bitTimeUs }).rearmTimer, true)

end Driver

end KnxStack.Physical
