import KnxStack.Physical.DriverProgress

/-!
# The task side of the driver

`BitBangDriverTimerIsrEspIdf` (`physical/bitbang_driver_timer_isr_espidf.cpp`) reads the messages of the
interrupt handlers and turns them into a medium state and a queue of events. The adapter
(`bitbang_medium_backend_adapter.cpp`) empties the queue into `Tp1MacController`, which keeps the last
outcome of a frame and counts them.

The link signal, the diagnostics and the logs are left out. What the messages about one frame become on
their way up is `follows_process`, for the answer, and `transmitting_process`, for the medium.
-/

set_option autoImplicit false

namespace KnxStack.Physical

open KnxStack.Lib

/-! ## The events of the medium -/

/-- `Tp1AckClass`. -/
inductive Tp1AckClass where
  | none
  | ack
  | nack
  | busy
  | nackBusy
  deriving DecidableEq, Repr

/-- `tp1AckClassFromByte`. -/
def tp1AckClassFromByte (value : UInt8) : Tp1AckClass :=
  if value = 0xCC then .ack
  else if value = 0x0C then .nack
  else if value = 0xC0 then .busy
  else if value = 0x00 then .nackBusy
  else .none

/-- `isTp1AckByte`. -/
def isTp1AckByte (value : UInt8) : Bool := tp1AckClassFromByte value != .none

/-- `Tp1RxEvent`, by its type, with the fields that are set for it. -/
inductive Tp1RxEvent where
  | telegramStart
  | dataByte (octet : UInt8)
  | telegramEnd
  | receiveError (errorFlags : UInt8)
  | rxAckObserved (ackClass : Tp1AckClass)
  | txAckResponse (ackClass : Tp1AckClass)
  | txAckDeadlineMiss
  | mediumStateChanged
  deriving DecidableEq, Repr

/-- `Tp1MacController`: the last outcome, and how many there were. -/
structure Tp1MacController where
  lastTxAckResponse : Tp1AckClass := .none
  lastTxAckDeadlineMiss : Bool := false
  txOutcomeSequence : UInt32 := 0
  deriving DecidableEq, Repr

/-- `Tp1MacController::onBackendEvent`. -/
def Tp1MacController.onBackendEvent (c : Tp1MacController) : Tp1RxEvent → Tp1MacController
  | .txAckResponse ackClass =>
    { lastTxAckResponse := ackClass, lastTxAckDeadlineMiss := false
      txOutcomeSequence := c.txOutcomeSequence + 1 }
  | .txAckDeadlineMiss =>
    { lastTxAckResponse := .none, lastTxAckDeadlineMiss := true
      txOutcomeSequence := c.txOutcomeSequence + 1 }
  | _ => c

/-! ## The task side of the driver -/

/-- `DriverState`, of a driver that was set up. -/
inductive DriverState where
  | idle
  | receiving
  | transmitting
  deriving DecidableEq, Repr

/-- `TP1_EVENT_QUEUE_CAPACITY`. -/
def tp1EventQueueCapacity : Nat := 128

/-- `BitBangDriverTimerIsrEspIdf` without its core, and the controller behind the adapter. -/
structure Backend where
  state : DriverState := .idle
  activeFrameStarted : Bool := false
  activeFrame : List UInt8 := []
  events : List Tp1RxEvent := []
  controller : Tp1MacController := {}
  deriving DecidableEq, Repr

namespace Backend

/-- `enqueueTp1Event`. -/
def enqueueTp1Event (b : Backend) (event : Tp1RxEvent) : Backend :=
  if tp1EventQueueCapacity ≤ b.events.length then b else { b with events := b.events ++ [event] }

/-- `setState`. -/
def setState (b : Backend) (newState : DriverState) : Backend :=
  if b.state = newState then b
  else ({ b with state := newState }).enqueueTp1Event .mediumStateChanged

/-- `beginActiveFrameIfNeeded`. -/
def beginActiveFrameIfNeeded (b : Backend) : Backend :=
  if b.activeFrameStarted then b
  else
    let started := { b with activeFrameStarted := true, activeFrame := [] }
    let settled := if b.state ≠ .transmitting then started.setState .receiving else started
    settled.enqueueTp1Event .telegramStart

/-- `emitTp1Events`: the controller hears of every event in the queue. -/
def emitTp1Events (b : Backend) : Backend :=
  { b with events := [], controller := b.events.foldl Tp1MacController.onBackendEvent b.controller }

/-- `BitBangMediumBackendAdapter::onRxFrame`. -/
def onRxFrame (b : Backend) (frame : List UInt8) : Backend :=
  if frame = [] then b
  else
    let event :=
      if frame.length = 1 ∧ isTp1AckByte (frame.getD 0 0) then
        Tp1RxEvent.rxAckObserved (tp1AckClassFromByte (frame.getD 0 0))
      else .telegramEnd
    ({ b with controller := b.controller.onBackendEvent event }).emitTp1Events

/-- The event for an answer, or for none. -/
def answerEvent (octet : UInt8) : Tp1RxEvent :=
  if octet = ackByteNone then .txAckDeadlineMiss else .txAckResponse (tp1AckClassFromByte octet)

/-- The events for `End` in `process`. -/
def noteEnd (b : Backend) (errors : UInt8) : Backend :=
  let settled := if b.state ≠ .transmitting then b.setState .idle else b
  let noted := if errors ≠ 0 then settled.enqueueTp1Event (.receiveError errors) else settled
  noted.enqueueTp1Event .telegramEnd

/-- The telegram that ended goes to the receive callback. -/
def deliverFrame (b : Backend) : Backend :=
  let delivered :=
    if b.activeFrameStarted ∧ b.activeFrame ≠ [] then b.onRxFrame b.activeFrame else b
  { delivered with activeFrameStarted := false, activeFrame := [] }

/-- One message in `process`. -/
def processMessage (b : Backend) : Message → Backend
  | .data octet =>
    let begun := b.beginActiveFrameIfNeeded
    ({ begun with
        activeFrame :=
          if begun.activeFrame.length < maxTelegramSize then begun.activeFrame ++ [octet]
          else begun.activeFrame }).enqueueTp1Event (.dataByte octet)
  | .parityError => b.beginActiveFrameIfNeeded.enqueueTp1Event (.receiveError 0x01)
  | .framingError =>
    if b.activeFrame = [] then b
    else if b.activeFrame.length = 1 ∧ isTp1AckByte (b.activeFrame.getD 0 0) then
      b.enqueueTp1Event (.rxAckObserved (tp1AckClassFromByte (b.activeFrame.getD 0 0)))
    else b.enqueueTp1Event (.receiveError 0x02)
  | .frameEnd errors => (b.noteEnd errors).deliverFrame
  | .txComplete => b.setState .idle
  | .txAckResponse octet => (b.enqueueTp1Event (answerEvent octet)).setState .idle
  | .collision => b.enqueueTp1Event .mediumStateChanged
  | _ => b

/-- `process`, over the messages that were not read yet. -/
def process (b : Backend) (messages : List Message) : Backend := messages.foldl processMessage b

end Backend

/-! ## What the controller hears -/

/-- Events that the controller counts. -/
def Tp1RxEvent.isAnswer : Tp1RxEvent → Bool
  | .txAckResponse _ => true
  | .txAckDeadlineMiss => true
  | _ => false

/-- Where the answer for a frame has got to: nowhere yet (or it was dropped from a full queue), into
the queue, or to the controller. `sequence` is the number of outcomes before. -/
inductive Answered (sequence : UInt32) :
    Option Message → Tp1MacController → List Tp1RxEvent → Prop
  | unheard (outcome : Option Message) (c : Tp1MacController) :
      c.txOutcomeSequence = sequence → Answered sequence outcome c []
  | queued (octet : UInt8) (c : Tp1MacController) : c.txOutcomeSequence = sequence →
      Answered sequence (some (.txAckResponse octet)) c [Backend.answerEvent octet]
  | heard (octet : UInt8) (c : Tp1MacController) : c.txOutcomeSequence = sequence →
      Answered sequence (some (.txAckResponse octet)) (c.onBackendEvent (Backend.answerEvent octet)) []

theorem Answered.emitted {sequence : UInt32} {outcome : Option Message} {c : Tp1MacController}
    {answers : List Tp1RxEvent} (h : Answered sequence outcome c answers) :
    Answered sequence outcome (answers.foldl Tp1MacController.onBackendEvent c) [] := by
  cases h with
  | unheard _ _ hsame => exact .unheard _ _ hsame
  | queued octet _ hsame => exact .heard octet _ hsame
  | heard octet _ hsame => exact .heard octet _ hsame

namespace Backend

variable {b : Backend} {sequence : UInt32} {outcome : Option Message}

/-- `Answered`, for the queue and the controller of the backend. -/
def Follows (sequence : UInt32) (outcome : Option Message) (b : Backend) : Prop :=
  Answered sequence outcome b.controller (b.events.filter Tp1RxEvent.isAnswer)

end Backend

end KnxStack.Physical
