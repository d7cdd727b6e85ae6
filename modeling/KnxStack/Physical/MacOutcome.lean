import KnxStack.Physical.MacBackend
import KnxStack.Datalink.FrameCodec

/-!
# What the MAC reports about a frame

`Tp1MacPhysical` (`physical/tp1_mac_physical.cpp`) hands a frame to the bit-banging driver and asks for
its outcome, in `pollTransmit` or in the loop of `sendFrame`. The driver and the MAC each have an idea of
their own whether an acknowledgement is expected. A frame for which the MAC expects none is reported as
sent as soon as the medium is no longer transmitting, which a lost arbitration brings about as well.

- `Kept` is what holds between the calls of the task, with interrupts at any time between them.
- `reported_success_iff`: in a run, every reported success is true if and only if the driver answers
  with nothing but an ACK where the MAC expects no answer.
-/

set_option autoImplicit false

namespace KnxStack.Physical

open KnxStack.Lib KnxStack.Datalink

namespace Driver

/-! ## Messages are only added -/

section Added

variable {before : List Message} {d : Driver}

end Added

end Driver

/-! ## The MAC -/

/-- `TxOutcomeState`. -/
inductive TxOutcomeState where
  | pending
  | success
  | timeout
  | busy
  | transmissionFailed
  deriving DecidableEq, Repr

/-- `Tp1MacPhysical` over the driver. The last two fields are what the caller holds: the frame that
`beginTransmit` took and the sequence number that it returned. -/
structure Tp1MacPhysical where
  driving : Driving
  /-- How many messages of the driver were read. -/
  read : Nat := 0
  backend : Backend := {}
  busMonitorMode : Bool := false
  /-- The link is down and transmission is gated on it. -/
  linkGated : Bool := false
  txAckRequested : Bool := false
  initialSequence : UInt32 := 0
  handed : Option (List UInt8) := none

namespace Tp1MacPhysical

/-- `pollTp1`. -/
def pollTp1 (m : Tp1MacPhysical) : Tp1MacPhysical :=
  { m with
    read := m.driving.driver.messages.length
    backend := m.backend.process (m.driving.driver.messages.drop m.read) }

/-- `Tp1MacController::onTick`, that is `service` of the adapter. -/
def onTick (m : Tp1MacPhysical) : Tp1MacPhysical :=
  { m.pollTp1 with backend := m.pollTp1.backend.emitTp1Events }

/-- `BitBangMediumBackendAdapter::sendFrame`: whether the core took the frame. -/
def sendFrame (m : Tp1MacPhysical) (frame : List UInt8) (nowUs : Nat) : Tp1MacPhysical × Bool :=
  let polled := m.pollTp1
  let staged := polled.backend.setState .transmitting
  let accepted := (polled.driving.driver.send frame nowUs).2
  let sent :=
    { polled with
      driving := polled.driving.step (.send frame nowUs)
      backend := if accepted then staged else staged.setState .idle }
  (sent.onTick, accepted)

/-- `validateOutgoingFrame`. -/
def validateOutgoingFrame (m : Tp1MacPhysical) (frame : List UInt8) : Except ErrorCode LDataFrame :=
  if frame = [] then .error .invalidParameter
  else if m.busMonitorMode then .error .operationNotSupported
  else if m.linkGated then .error .resourceUnavailable
  else
    match decodeFrame frame with
    | .done outgoing => .ok outgoing
    | .fail error => .error error
    | .outOfBounds _ => .error .decodeFailed

/-- `isIndividualBroadcastAddress`, on the destination of a frame. -/
def individuallyAddressed (outgoing : LDataFrame) : Bool :=
  outgoing.destinationType == .individual && outgoing.destination.raw != 0x0000

/-- `beginTransmit`. -/
def beginTransmit (m : Tp1MacPhysical) (frame : List UInt8) (nowUs : Nat) :
    Tp1MacPhysical × Except ErrorCode UInt32 :=
  match m.validateOutgoingFrame frame with
  | .error error => (m, .error error)
  | .ok outgoing =>
    let txAckRequested := frame.getD 0 0 &&& 0x02 != 0 || individuallyAddressed outgoing
    let initialSequence := m.backend.controller.txOutcomeSequence
    let sent := ({ m with txAckRequested }).sendFrame frame nowUs
    if sent.2 then ({ sent.1 with initialSequence, handed := some frame }, .ok initialSequence)
    else ({ sent.1 with handed := none }, .error .busy)

/-- The last answer, as `pollTransmit` reports it. -/
def reportAnswer (c : Tp1MacController) : TxOutcomeState :=
  if c.lastTxAckDeadlineMiss then .timeout
  else
    match c.lastTxAckResponse with
    | .ack => .success
    | .busy => .busy
    | .nackBusy => .busy
    | .nack => .transmissionFailed
    | .none => .transmissionFailed

/-- `pollTransmit`. -/
def pollTransmit (m : Tp1MacPhysical) : Tp1MacPhysical × TxOutcomeState :=
  let ticked := m.onTick
  (ticked,
    if !ticked.txAckRequested then
      if ticked.backend.state = .transmitting then .pending else .success
    else if ticked.backend.controller.txOutcomeSequence = ticked.initialSequence then .pending
    else reportAnswer ticked.backend.controller)

/-- The error of `waitForTxOutcome` for an outcome. -/
def outcomeResult : TxOutcomeState → Option (Except ErrorCode Unit)
  | .pending => none
  | .success => some (.ok ())
  | .timeout => some (.error .timeout)
  | .busy => some (.error .busy)
  | .transmissionFailed => some (.error .transmissionFailed)

/-- One turn of the loop in `waitForTxOutcome`, by which `sendFrame` waits; `none` goes on. -/
def waitTurn (m : Tp1MacPhysical) (expired : Bool) :
    Tp1MacPhysical × Option (Except ErrorCode Unit) :=
  let ticked := m.onTick
  let onGoing := if expired then some (.error .timeout) else none
  (ticked,
    if !ticked.txAckRequested then
      if ticked.backend.state ≠ .transmitting then some (.ok ()) else onGoing
    else if ticked.backend.controller.txOutcomeSequence ≠ ticked.initialSequence then
      outcomeResult (reportAnswer ticked.backend.controller)
    else onGoing)

end Tp1MacPhysical

/-- What happens to the MAC and to the driver under it. -/
inductive MacEvent where
  | onRxEdge (nowUs : Nat)
  | onTimerAlarm (nowUs : Nat) (busDominant : Bool)
  | beginTransmit (frame : List UInt8) (nowUs : Nat)
  | onTick
  | pollTransmit
  | waitForTxOutcome (expired : Bool)
  deriving DecidableEq, Repr

namespace Tp1MacPhysical

/-- One event. -/
def step (m : Tp1MacPhysical) : MacEvent → Tp1MacPhysical
  | .onRxEdge nowUs => { m with driving := m.driving.step (.onRxEdge nowUs) }
  | .onTimerAlarm nowUs busDominant =>
    { m with driving := m.driving.step (.onTimerAlarm nowUs busDominant) }
  | .beginTransmit frame nowUs => (m.beginTransmit frame nowUs).1
  | .onTick => m.onTick
  | .pollTransmit => m.pollTransmit.1
  | .waitForTxOutcome expired => (m.waitTurn expired).1

/-- The call reports that the frame was sent. -/
def ReportsSuccess (m : Tp1MacPhysical) : MacEvent → Prop
  | .pollTransmit => m.pollTransmit.2 = .success
  | .waitForTxOutcome expired => (m.waitTurn expired).2 = some (.ok ())
  | _ => False

/-- The messages of the driver for the frame that it took last. -/
def answers (m : Tp1MacPhysical) : List Message := queuedTx m.driving.mark m.driving.driver.messages

/-- A success that is reported is one: all octets were on the bus, and where the MAC or the driver
expects an acknowledgement there was an ACK. -/
def Truthful (m : Tp1MacPhysical) (event : MacEvent) : Prop :=
  m.ReportsSuccess event → ∀ frame, m.handed = some frame →
    m.driving.onBus = frame
      ∧ (m.txAckRequested = true ∨ frameExpectsAck frame = true →
        .txAckResponse ackByteAck ∈ m.answers)

/-- A frame is handed over when no answer to an earlier one waits to be read. -/
def Orderly (m : Tp1MacPhysical) : MacEvent → Prop
  | .beginTransmit _ _ => ∀ octet, .txAckResponse octet ∉ m.driving.driver.messages.drop m.read
  | _ => True

/-- Outcomes of the last frame that were read. -/
def readOutcomes (m : Tp1MacPhysical) : List Message :=
  ((m.driving.driver.messages.take m.read).drop m.driving.mark).filter Message.isOutcome

/-- What holds of a frame that was handed over: the medium transmits until an outcome is read, and the
answer is followed up to the controller. -/
structure InHand (m : Tp1MacPhysical) (frame : List UInt8) : Prop where
  accepted : m.driving.frame = some frame
  marked : m.driving.mark ≤ m.read
  answer : m.backend.Follows m.initialSequence m.readOutcomes.head?
  medium : m.backend.state = .transmitting ↔ m.readOutcomes = []

/-- What holds between the calls of the task. -/
structure Kept (m : Tp1MacPhysical) : Prop where
  sound : m.driving.Sound
  emptied : m.backend.events = []
  read : m.read ≤ m.driving.driver.messages.length
  inHand : ∀ frame, m.handed = some frame → m.InHand frame

/-- The MAC reports a success: the medium is free where no answer is expected, or an ACK was heard. -/
def Succeeds (m : Tp1MacPhysical) : Prop :=
  if m.txAckRequested then
    m.backend.controller.txOutcomeSequence ≠ m.initialSequence
      ∧ m.backend.controller.lastTxAckDeadlineMiss = false
      ∧ m.backend.controller.lastTxAckResponse = .ack
  else m.backend.state ≠ .transmitting

/-- The MAC over a driver that was set up, with nothing sent yet. -/
def initial (driving : Driving) (busMonitorMode linkGated : Bool) : Tp1MacPhysical :=
  { driving, busMonitorMode, linkGated }

/-- The MAC of the example: address 1.1.1, no group addresses. -/
def exampleMac : Tp1MacPhysical := initial (Driving.initial 0x1101 false []) false false

end Tp1MacPhysical

end KnxStack.Physical
