import KnxStack.Datalink.FrameCodec
import KnxStack.Transport.ConnectionTable

/-!
# Transport layer: state and network port

The state of the transport layer (`transport/transport_layer.hpp`), the network layer as the
transport layer sees it, and the functions of `transport/transport_layer.cpp`.

The network below is a script: what it answers to the next requests is part of the state, so that
a theorem about every state is a theorem about every behaviour of the network. `Reliable` names the
scripts under which every request succeeds. Forwarding of foreign frames stays inside the network
layer and does not touch the transport layer.

Two logs are kept that the program does not read: `delivered`, the frames the receive callback was
called with, and `journal`, the changes of the set of connections, one for each log line the source
writes about them.
-/

set_option autoImplicit false

namespace KnxStack.Transport

open KnxStack.Lib KnxStack.Protocol KnxStack.Datalink

/-! ## The network layer -/

/-- Frame exchanged with the network layer; the transport layer uses its data link part only. -/
structure NDataFrame where
  dlFrame : LDataFrame
  deriving DecidableEq

/-- The network layer: its coming answers to a request to send, the coming progress reports of a
transmission, the transmission in flight, and the frames that went out. An exhausted script means
success. -/
structure NetworkPort where
  answers : List (Result Unit) := []
  progress : List (Result OperationProgressState) := []
  inFlight : Option NDataFrame := none
  sent : List NDataFrame := []
  deriving DecidableEq

namespace NetworkPort

/-- The next answer of the script. -/
def nextAnswer (n : NetworkPort) : Result Unit × NetworkPort :=
  match n.answers with
  | [] => (.ok (), n)
  | a :: rest => (a, { n with answers := rest })

/-- `NetworkLayer::sendFrame`. -/
def sendFrame (n : NetworkPort) (frame : NDataFrame) : Result Unit × NetworkPort :=
  match n.nextAnswer with
  | (.ok (), n) => (.ok (), { n with sent := n.sent ++ [frame] })
  | (.error e, n) => (.error e, n)

/-- `NetworkLayer::beginTransmit`: one transmission at a time. -/
def beginTransmit (n : NetworkPort) (frame : NDataFrame) : Result Unit × NetworkPort :=
  if n.inFlight.isSome then (.error .busy, n)
  else
    match n.nextAnswer with
    | (.ok (), n) => (.ok (), { n with inFlight := some frame })
    | (.error e, n) => (.error e, n)

/-- The next progress report of the script. -/
def nextProgress (n : NetworkPort) : Result OperationProgressState × NetworkPort :=
  match n.progress with
  | [] => (.ok .success, n)
  | p :: rest => (p, { n with progress := rest })

/-- `NetworkLayer::pollTransmit`: the frame is on the network when the transmission succeeds; any
other outcome but `pending` ends it. -/
def pollTransmit (n : NetworkPort) : Result OperationProgressState × NetworkPort :=
  match n.inFlight with
  | none => (.error .operationNotReady, n)
  | some frame =>
      match n.nextProgress with
      | (.ok .pending, n) => (.ok .pending, n)
      | (.ok .success, n) => (.ok .success, { n with inFlight := none, sent := n.sent ++ [frame] })
      | (r, n) => (r, { n with inFlight := none })

/-- Every request to send is accepted and every transmission succeeds in the end. -/
structure Reliable (n : NetworkPort) : Prop where
  answers_ok : ∀ a ∈ n.answers, a = .ok ()
  progress_ok : ∀ p ∈ n.progress, p = .ok .pending ∨ p = .ok .success

/-- The port after it took a frame. -/
def put (n : NetworkPort) (frame : NDataFrame) : NetworkPort :=
  { n with answers := n.answers.tail, sent := n.sent ++ [frame] }

theorem Reliable.sendFrame_eq {n : NetworkPort} (h : n.Reliable) (frame : NDataFrame) :
    n.sendFrame frame = (.ok (), n.put frame) := by
  obtain ⟨answers, progress, inFlight, sent⟩ := n
  cases answers with
  | nil => rfl
  | cons a rest =>
    have ha : a = .ok () := h.answers_ok a List.mem_cons_self
    subst ha
    rfl

theorem Reliable.put {n : NetworkPort} (h : n.Reliable) (frame : NDataFrame) :
    (n.put frame).Reliable :=
  ⟨fun a ha => h.answers_ok a (List.mem_of_mem_tail ha), h.progress_ok⟩

/-- The port after it started the transmission of a frame. -/
def launch (n : NetworkPort) (frame : NDataFrame) : NetworkPort :=
  { n with answers := n.answers.tail, inFlight := some frame }

/-- The port after the transmission of a frame has succeeded. -/
def land (n : NetworkPort) (frame : NDataFrame) : NetworkPort :=
  { n with progress := n.progress.tail, inFlight := none, sent := n.sent ++ [frame] }

theorem Reliable.beginTransmit_eq {n : NetworkPort} (h : n.Reliable) (hfree : n.inFlight = none)
    (frame : NDataFrame) : n.beginTransmit frame = (.ok (), n.launch frame) := by
  obtain ⟨answers, progress, inFlight, sent⟩ := n
  cases hfree
  cases answers with
  | nil => rfl
  | cons a rest =>
    have ha : a = .ok () := h.answers_ok a List.mem_cons_self
    subst ha
    rfl

theorem Reliable.launch {n : NetworkPort} (h : n.Reliable) (frame : NDataFrame) :
    (n.launch frame).Reliable :=
  ⟨fun a ha => h.answers_ok a (List.mem_of_mem_tail ha), h.progress_ok⟩

/-- A transmission in flight is reported as pending, which uses up a report, or has succeeded. -/
theorem Reliable.pollTransmit_cases {n : NetworkPort} (h : n.Reliable) {frame : NDataFrame}
    (hflight : n.inFlight = some frame) :
    (n.progress ≠ [] ∧
        n.pollTransmit = (.ok .pending, { n with progress := n.progress.tail })) ∨
      n.pollTransmit = (.ok .success, n.land frame) := by
  obtain ⟨answers, progress, inFlight, sent⟩ := n
  cases hflight
  cases progress with
  | nil => exact Or.inr rfl
  | cons p rest =>
    rcases h.progress_ok p List.mem_cons_self with rfl | rfl
    · exact Or.inl ⟨List.cons_ne_nil _ _, rfl⟩
    · exact Or.inr rfl

theorem Reliable.land {n : NetworkPort} (h : n.Reliable) (frame : NDataFrame) :
    (n.land frame).Reliable :=
  ⟨h.answers_ok, fun p hp => h.progress_ok p (List.mem_of_mem_tail hp)⟩

theorem Reliable.wait {n : NetworkPort} (h : n.Reliable) :
    NetworkPort.Reliable { n with progress := n.progress.tail } :=
  ⟨h.answers_ok, fun p hp => h.progress_ok p (List.mem_of_mem_tail hp)⟩

end NetworkPort

/-! ## Transport frames -/

/-- T_Data services. -/
inductive TDataService where
  | individual
  | group
  | connected
  deriving DecidableEq, Repr

/-- T_Data frame. The TPDU capacity, two header octets and `MAX_APDU_LENGTH`, is that of a data link
frame. -/
structure TDataFrame where
  service : TDataService := .group
  source : IndividualAddress := ⟨0⟩
  destination : GroupAddress := ⟨0⟩
  destinationType : AddressType := .group
  standardFrame : Bool := true
  repeated : Bool := false
  priority : Priority := .low
  ackRequested : Bool := true
  confirmation : Bool := false
  hopCount : UInt8 := 6
  sequenceNumber : UInt8 := 0
  securityTpci6 : UInt8 := 0
  security : RequestSecurity := {}
  tpdu : FixedVector UInt8 maxFrameSize := .clear
  deriving DecidableEq

/-- What a transform hook may change of a frame. -/
structure TransformedFrame where
  tpdu : FixedVector UInt8 maxFrameSize
  security : RequestSecurity

/-- Transform hook (`TDataTransform`). The hooks the stack installs replace the TPDU and the
security record and leave the rest of the frame alone. They keep counters of their own, so the
result depends on the frames the hook has seen before, the first argument. -/
abbrev TDataTransform : Type := List TDataFrame → TDataFrame → Result TransformedFrame

/-- A hook and the frames it was called with. -/
structure TransformHook where
  transform : Option TDataTransform := none
  seen : List TDataFrame := []

namespace TransformHook

/-- Run the hook on a frame; without a hook the frame passes. -/
def apply (h : TransformHook) (frame : TDataFrame) : Result TDataFrame × TransformHook :=
  match h.transform with
  | none => (.ok frame, h)
  | some transform =>
      let h' := { h with seen := h.seen ++ [frame] }
      match transform h.seen frame with
      | .error e => (.error e, h')
      | .ok out => (.ok { frame with tpdu := out.tpdu, security := out.security }, h')

/-- The hook lets every frame pass. -/
def Accepts (h : TransformHook) : Prop :=
  ∀ transform, h.transform = some transform → ∀ seen frame, ∃ out, transform seen frame = .ok out

theorem apply_ok {h : TransformHook} {f f' : TDataFrame} (heq : (h.apply f).1 = .ok f') :
    ∃ tpdu security, f' = { f with tpdu := tpdu, security := security } := by
  unfold apply at heq
  split at heq
  · cases heq
    exact ⟨f.tpdu, f.security, rfl⟩
  · dsimp only at heq
    split at heq
    · cases heq
    · cases heq
      exact ⟨_, _, rfl⟩

end TransformHook

/-! ## Operations in progress -/

/-- `ConnectedSendOperationState`. -/
structure ConnectedSendOperationState where
  active : Bool := false
  connectionIndex : ConnectionIndex := .invalid
  sequenceNumber : UInt8 := 0
  payload : FixedVector UInt8 maxApduLength := .clear

/-- `ConnectOperationState`. -/
structure ConnectOperationState where
  active : Bool := false
  createdConnection : Bool := false
  connectionIndex : ConnectionIndex := .invalid
  remoteAddress : IndividualAddress := ⟨0⟩

/-- `RetransmissionOperationState`; `pending` is what is left of the array. -/
structure RetransmissionOperationState where
  active : Bool := false
  currentTimeMs : UInt32 := 0
  pending : List ConnectionIndex := []
  sendingCurrent : Bool := false
  currentConnection : ConnectionIndex := .invalid

/-- `ReceiveOperationState`. -/
structure ReceiveOperationState where
  active : Bool := false
  waitingResponse : Bool := false
  deliverFrame : Bool := false
  advanceExpectedSequence : Bool := false
  terminalState : OperationProgressState := .success
  connectionIndex : ConnectionIndex := .invalid
  receivedFrame : TDataFrame := {}

/-- Changes of the set of connections, as the source logs them. -/
inductive TableEvent where
  | created (remoteAddress : IndividualAddress)
  | resynchronised (remoteAddress : IndividualAddress)
  | removed (remoteAddress : IndividualAddress)
  deriving DecidableEq

/-- Capacity of the receive queue (`RX_QUEUE_CAPACITY`). -/
def rxQueueCapacity : Nat := 8

/-- The transport layer. The initial values are those of the constructor. -/
structure TransportLayer where
  network : NetworkPort := {}
  ownAddress : IndividualAddress := ⟨0⟩
  rxCallback : Bool := false
  txHook : TransformHook := {}
  rxHook : TransformHook := {}
  initialized : Bool := false
  timebaseMs : UInt32 := 0
  sendActive : Bool := false
  connectedSendOperation : ConnectedSendOperationState := {}
  connectOperation : ConnectOperationState := {}
  retransmissionOperation : RetransmissionOperationState := {}
  receiveOperation : ReceiveOperationState := {}
  rxQueue : List TDataFrame := []
  droppedReceiveFrames : Nat := 0
  connectionTable : ConnectionTable := {}
  delivered : List TDataFrame := []
  journal : List TableEvent := []

namespace TransportLayer

/-! ## Set-up -/

/-- `init`: one connection at a time, as a plain device has. -/
def init (s : TransportLayer) (ownAddress : IndividualAddress) : Result Unit × TransportLayer :=
  if s.initialized then (.ok (), s)
  else
    match s.connectionTable.init defaultMaxConnections with
    | (.error e, t) => (.error e, { s with ownAddress := ownAddress, connectionTable := t })
    | (.ok (), t) =>
        (.ok (), { s with ownAddress := ownAddress, connectionTable := t, initialized := true })

/-- `setOwnAddress`. -/
def setOwnAddress (s : TransportLayer) (ownAddress : IndividualAddress) : TransportLayer :=
  { s with ownAddress := ownAddress }

/-- `close`: the connection table is left as it is. -/
def close (s : TransportLayer) : TransportLayer :=
  if s.initialized then
    { s with
      rxCallback := false
      rxQueue := []
      droppedReceiveFrames := 0
      sendActive := false
      connectedSendOperation := {}
      connectOperation := {}
      retransmissionOperation := {}
      receiveOperation := {}
      initialized := false }
  else s

/-- `setReceiveCallback`: whether a callback is installed. -/
def setReceiveCallback (s : TransportLayer) (installed : Bool) : TransportLayer :=
  { s with rxCallback := installed }

/-- `setTxTransform`. -/
def setTxTransform (s : TransportLayer) (transform : Option TDataTransform) : TransportLayer :=
  { s with txHook := ⟨transform, []⟩ }

/-- `setRxTransform`. -/
def setRxTransform (s : TransportLayer) (transform : Option TDataTransform) : TransportLayer :=
  { s with rxHook := ⟨transform, []⟩ }

/-! ## Frames to the upper layer -/

/-- `enqueueReceivedFrame`. -/
def enqueueReceivedFrame (s : TransportLayer) (frame : TDataFrame) : TransportLayer :=
  if rxQueueCapacity ≤ s.rxQueue.length then
    { s with droppedReceiveFrames := s.droppedReceiveFrames + 1 }
  else { s with rxQueue := s.rxQueue ++ [frame] }

/-- `popReceivedFrame`. -/
def popReceivedFrame (s : TransportLayer) : Option TDataFrame × TransportLayer :=
  match s.rxQueue with
  | [] => (none, s)
  | frame :: rest => (some frame, { s with rxQueue := rest })

/-- Hand a frame to the receive callback, or to the queue when there is none. -/
def deliver (s : TransportLayer) (frame : TDataFrame) : TransportLayer :=
  if s.rxCallback then { s with delivered := s.delivered ++ [frame] }
  else s.enqueueReceivedFrame frame

/-- Run the receive hook on a frame and deliver what it lets pass. -/
def transformAndDeliver (s : TransportLayer) (frame : TDataFrame) : TransportLayer :=
  match s.rxHook.apply frame with
  | (.error _, h) => { s with rxHook := h }
  | (.ok frame, h) => { s with rxHook := h }.deliver frame

/-- `convertFromNetwork`. -/
def convertFromNetwork (frame : NDataFrame) : TDataFrame where
  source := frame.dlFrame.source
  destination := frame.dlFrame.destination
  destinationType := frame.dlFrame.destinationType
  tpdu := frame.dlFrame.tpdu
  standardFrame := frame.dlFrame.standardFrame
  repeated := frame.dlFrame.repeated
  priority := frame.dlFrame.priority
  ackRequested := frame.dlFrame.ackRequested
  confirmation := frame.dlFrame.confirmation
  hopCount := frame.dlFrame.hopCount
  service := if frame.dlFrame.destinationType.isGroupAddress then .group else .individual

/-! ## Frames to the network -/

/-- `mapTxErrorToProgressState`. -/
def mapTxErrorToProgressState : ErrorCode → OperationProgressState
  | .busy => .busy
  | .timeout => .timeout
  | _ => .transmissionFailed

/-- Hand a frame to the network at once. -/
def networkSend (s : TransportLayer) (frame : NDataFrame) : Result Unit × TransportLayer :=
  ((s.network.sendFrame frame).1, { s with network := (s.network.sendFrame frame).2 })

/-- The state after the network took a frame. -/
def put (s : TransportLayer) (frame : NDataFrame) : TransportLayer :=
  { s with network := s.network.put frame }

theorem networkSend_of_reliable {s : TransportLayer} (h : s.network.Reliable)
    (frame : NDataFrame) : s.networkSend frame = (.ok (), s.put frame) := by
  unfold networkSend put
  rw [h.sendFrame_eq]

/-- Start a transmission. -/
def networkBegin (s : TransportLayer) (frame : NDataFrame) : Result Unit × TransportLayer :=
  ((s.network.beginTransmit frame).1, { s with network := (s.network.beginTransmit frame).2 })

/-- The state after the network started the transmission of a frame. -/
def launch (s : TransportLayer) (frame : NDataFrame) : TransportLayer :=
  { s with network := s.network.launch frame }

theorem networkBegin_of_reliable {s : TransportLayer} (h : s.network.Reliable)
    (hfree : s.network.inFlight = none) (frame : NDataFrame) :
    s.networkBegin frame = (.ok (), s.launch frame) := by
  unfold networkBegin launch
  rw [h.beginTransmit_eq hfree]

/-- Poll the transmission in flight. -/
def networkPoll (s : TransportLayer) : Result OperationProgressState × TransportLayer :=
  (s.network.pollTransmit.1, { s with network := s.network.pollTransmit.2 })

/-- Control frame to a remote device. -/
def controlFrame (own remote : IndividualAddress) (tpci : TPCIField) (priority : Priority) :
    NDataFrame where
  dlFrame :=
    { source := own
      destination := ⟨remote.raw⟩
      destinationType := .individual
      tpdu := buildTpduInPlace tpci ⟨0⟩ [] (tpduLengthFromTpci_le tpci (Nat.zero_le _))
      hopCount := 6
      repeated := false
      priority := priority
      ackRequested := false }

/-- `sendConnect`: client-initiated connections use system priority. -/
def sendConnect (s : TransportLayer) (remote : IndividualAddress) :
    Result Unit × TransportLayer :=
  s.networkSend (controlFrame s.ownAddress remote (.createControl .connect) .system)

/-- `sendDisconnect`. -/
def sendDisconnect (s : TransportLayer) (remote : IndividualAddress) (priority : Priority) :
    Result Unit × TransportLayer :=
  s.networkSend (controlFrame s.ownAddress remote (.createControl .disconnect) priority)

/-- `sendAck`. -/
def sendAck (s : TransportLayer) (remote : IndividualAddress) (seqNum : UInt8)
    (priority : Priority) : Result Unit × TransportLayer :=
  s.networkSend (controlFrame s.ownAddress remote (.ack seqNum) priority)

/-- `sendNak`. -/
def sendNak (s : TransportLayer) (remote : IndividualAddress) (seqNum : UInt8)
    (priority : Priority) : Result Unit × TransportLayer :=
  s.networkSend (controlFrame s.ownAddress remote (.nak seqNum) priority)

/-- `beginControlResponse`. -/
def beginControlResponse (s : TransportLayer) (remote : IndividualAddress) (tpci : TPCIField)
    (priority : Priority) : Result Unit × TransportLayer :=
  s.networkBegin (controlFrame s.ownAddress remote tpci priority)

/-- Numbered data frame to a remote device. -/
def numberedDataFrame (own remote : IndividualAddress) (seqNum : UInt8) (apciRaw : UInt16)
    (payload : FixedVector UInt8 maxApduLength) (priority : Priority) : NDataFrame where
  dlFrame :=
    { source := own
      destination := ⟨remote.raw⟩
      destinationType := .individual
      tpdu := buildTpduInPlace (.create .numberedData seqNum) ⟨apciRaw⟩ payload.data
        (tpduLengthFromTpci_le _ payload.size_le)
      hopCount := 6
      priority := priority
      ackRequested := false }

/-! ## Writes to the connection table -/

/-- The state with another connection table. -/
def withTable (s : TransportLayer) (t : ConnectionTable) : TransportLayer :=
  { s with connectionTable := t }

/-- The state with another time base. -/
def withTime (s : TransportLayer) (now : UInt32) : TransportLayer := { s with timebaseMs := now }

/-- Events added to the journal. -/
def note (s : TransportLayer) (events : List TableEvent) : TransportLayer :=
  { s with journal := s.journal ++ events }

/-- Write through a pointer found by remote address. -/
def updateEntry (s : TransportLayer) (remote : IndividualAddress)
    (f : ConnectionEntry → ConnectionEntry) : TransportLayer :=
  s.withTable (s.connectionTable.updateByAddress remote f)

/-- Write through a pointer found by index. -/
def updateConnection (s : TransportLayer) (index : ConnectionIndex)
    (f : ConnectionEntry → ConnectionEntry) : TransportLayer :=
  s.withTable (s.connectionTable.updateByIndex index f)

/-- Stamp an entry with the current time. -/
def touch (s : TransportLayer) (index : ConnectionIndex) : TransportLayer :=
  s.withTable (s.connectionTable.updateActivityTime index s.timebaseMs)

end TransportLayer

end KnxStack.Transport
