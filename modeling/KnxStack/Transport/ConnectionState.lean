import KnxStack.Types

/-!
# Connection state machine

The state machine of one transport connection (`transport/connection_state.cpp`): four states, and
a table of the events each of them answers. An event that the current state does not list is
refused and changes nothing.

No event handler is ever registered in the stack, so the callback of a transition is left out.
-/

set_option autoImplicit false

namespace KnxStack.Transport

/-- Maximum idle time of a connection (`CONNECTION_TIMEOUT_MS`). -/
def connectionTimeoutMs : UInt32 := 6000

/-- Acknowledgement timeout (`ACK_TIMEOUT_MS`), also the first retransmission timeout. -/
def ackTimeoutMs : UInt32 := 3000

/-- Repetitions before giving up (`CONNECTION_MAX_REPETITIONS`). -/
def connectionMaxRepetitions : UInt8 := 3

/-- States of a connection. -/
inductive ConnectionState where
  | idle
  | connecting
  | connected
  | disconnecting
  deriving DecidableEq, Repr

/-- Events of a connection. -/
inductive ConnectionEvent where
  | connectRequest
  | disconnectRequest
  | dataRequest
  | connectResponse
  | disconnectResponse
  | dataIndicate
  | timeout
  | retransmitTimeout
  | invalidSequence
  | connectionRefused
  deriving DecidableEq, Repr

/-- Parameters of a connection. -/
structure ConnectionParams where
  remoteAddress : IndividualAddress := ⟨0⟩
  initialSequence : UInt8 := 0
  maxRetries : UInt8 := connectionMaxRepetitions
  timeoutMs : UInt32 := connectionTimeoutMs
  retransmitTimeoutMs : UInt32 := ackTimeoutMs
  deriving DecidableEq

/-- State machine of one connection. -/
structure ConnectionStateMachine where
  params : ConnectionParams
  state : ConnectionState
  sequenceNumber : UInt8
  retryCount : UInt8
  deriving DecidableEq

namespace ConnectionStateMachine

/-- `init`: the machine of a valid remote address starts in `idle`. -/
def init (params : ConnectionParams) : Result ConnectionStateMachine :=
  if params.remoteAddress.isValid then
    .ok ⟨params, .idle, params.initialSequence, 0⟩
  else .error .invalidAddress

/-- `resetRetry`. -/
def resetRetry (m : ConnectionStateMachine) : ConnectionStateMachine := { m with retryCount := 0 }

/-- `reset`: back to `idle` with the configured parameters. -/
def reset (m : ConnectionStateMachine) : ConnectionStateMachine :=
  resetRetry { m with state := .idle, sequenceNumber := m.params.initialSequence }

/-- `isConnected`. -/
def isConnected (m : ConnectionStateMachine) : Bool := m.state == .connected

/-- `isEventValid`: the events each state answers. -/
def isEventValid (m : ConnectionStateMachine) (event : ConnectionEvent) : Result Unit :=
  match m.state, event with
  | .idle, .connectRequest => .ok ()
  | .connecting, .connectResponse => .ok ()
  | .connecting, .connectionRefused => .ok ()
  | .connecting, .timeout => .ok ()
  | .connecting, .retransmitTimeout => .ok ()
  | .connected, .disconnectRequest => .ok ()
  | .connected, .dataRequest => .ok ()
  | .connected, .dataIndicate => .ok ()
  | .connected, .invalidSequence => .ok ()
  | .connected, .timeout => .ok ()
  | .disconnecting, .disconnectResponse => .ok ()
  | .disconnecting, .timeout => .ok ()
  | _, _ => .error .operationNotSupported

/-- Transition table: the machine after a valid event. -/
def transition (m : ConnectionStateMachine) (event : ConnectionEvent) : ConnectionStateMachine :=
  match m.state, event with
  | .idle, .connectRequest => { m with state := .connecting }
  | .connecting, .connectResponse => resetRetry { m with state := .connected }
  | .connecting, .connectionRefused => resetRetry { m with state := .idle }
  | .connecting, .timeout => resetRetry { m with state := .idle }
  | .connected, .disconnectRequest => { m with state := .disconnecting }
  | .connected, .dataIndicate => resetRetry m
  | .connected, .dataRequest => resetRetry m
  | .connected, .timeout => resetRetry { m with state := .idle }
  | .disconnecting, .disconnectResponse => resetRetry { m with state := .idle }
  | .disconnecting, .timeout => resetRetry { m with state := .idle }
  | _, _ => m

/-- `handleEvent`. -/
def handleEvent (m : ConnectionStateMachine) (event : ConnectionEvent) :
    Result Unit × ConnectionStateMachine :=
  match m.isEventValid event with
  | .error _ => (.error .operationNotSupported, m)
  | .ok () => (.ok (), m.transition event)

/-- The machine after an event whose result the caller drops. -/
def onEvent (m : ConnectionStateMachine) (event : ConnectionEvent) : ConnectionStateMachine :=
  (m.handleEvent event).2

end ConnectionStateMachine

end KnxStack.Transport
