import KnxStack.Transport.Send

/-!
# Transport layer: receiving

The functions of `transport/transport_layer_receive.cpp`. The synchronous path is
`handleNetworkRx`, which dispatches on the transport control field and lets the handlers look up
the connection by the source of the frame. The polled path, `beginHandleNetworkRx` and
`pollHandleNetworkRx`, has its own handler for numbered data and leaves every other frame to the
synchronous one.
-/

set_option autoImplicit false

namespace KnxStack.Transport

open KnxStack.Lib KnxStack.Protocol KnxStack.Datalink

namespace TransportLayer

/-! ## Connection control -/

/-- Entry of a connection the peer has opened anew. -/
def resynchronise (e : ConnectionEntry) (now : UInt32) : ConnectionEntry :=
  { e with
    sequenceNumber := 0
    expectedRxSeq := 0
    pendingSeq := 0
    lastReceivedSeq := 0xFF
    pendingRetransmission := false
    pendingData := .clear
    pendingApciRaw := 0
    retransmitCount := 0
    retransmitTimeoutMs := ackTimeoutMs
    lastTxTimeMs := now
    stateMachine := e.stateMachine.reset }

/-- Parameters of a connection a peer opens. -/
def serverParams (remote : IndividualAddress) : ConnectionParams where
  remoteAddress := remote
  timeoutMs := connectionTimeoutMs
  maxRetries := connectionMaxRepetitions

/-- Common accept path of `handleConnectRequest`: from idle to connected, without an answer. -/
def acceptConnection (priority : Priority) (e : ConnectionEntry) : ConnectionEntry :=
  { e with
    priority := priority
    stateMachine := (e.stateMachine.onEvent .connectRequest).onEvent .connectResponse }

/-- `handleConnectRequest`. -/
def handleConnectRequest (s : TransportLayer) (remote : IndividualAddress) (priority : Priority)
    (repeatedFrame : Bool) : TransportLayer :=
  match s.connectionTable.findConnection remote with
  | some e =>
      let s := s.updateEntry remote (fun c => { c with priority := priority })
      if repeatedFrame ∧ e.stateMachine.state = .connected then s.touch e.index
      else
        let s := s.updateEntry remote (fun c => resynchronise c s.timebaseMs)
        ((s.note [.resynchronised remote]).updateEntry remote (acceptConnection priority)).touch
          e.index
  | none =>
      match s.createEntry remote (serverParams remote) with
      | (index, s) =>
          if index.isValid then (s.updateConnection index (acceptConnection priority)).touch index
          else (s.sendDisconnect remote priority).2

/-- `handleConnectResponse`. -/
def handleConnectResponse (s : TransportLayer) (remote : IndividualAddress) : TransportLayer :=
  match s.connectionTable.findConnection remote with
  | none => s
  | some e =>
      (s.updateEntry remote (fun c =>
        { c with stateMachine := c.stateMachine.onEvent .connectResponse })).touch e.index

/-- Remove an entry by address and note it in the journal. -/
def removeEntryByAddress (s : TransportLayer) (remote : IndividualAddress) : TransportLayer :=
  match s.connectionTable.findConnection remote with
  | none => s
  | some _ =>
      (s.withTable (s.connectionTable.removeConnectionByAddress remote).2).note [.removed remote]

/-- `handleDisconnectRequest`. -/
def handleDisconnectRequest (s : TransportLayer) (remote : IndividualAddress) : TransportLayer :=
  s.removeEntryByAddress remote

/-- `handleDisconnectResponse`. -/
def handleDisconnectResponse (s : TransportLayer) (remote : IndividualAddress) :
    TransportLayer :=
  match s.connectionTable.findConnection remote with
  | none => s.removeEntryByAddress remote
  | some e =>
      ((s.updateEntry remote (fun c =>
        { c with stateMachine := c.stateMachine.onEvent .disconnectResponse })).touch
          e.index).removeEntryByAddress remote

/-! ## Acknowledgements -/

/-- The entry awaits the acknowledgement of the TPDU with this number. -/
def awaits (e : ConnectionEntry) (seqNum : UInt8) : Prop :=
  e.pendingRetransmission = true ∧ seqNum &&& 0x0F = e.pendingSeq &&& 0x0F

instance (e : ConnectionEntry) (seqNum : UInt8) : Decidable (awaits e seqNum) :=
  inferInstanceAs (Decidable (_ ∧ _))

/-- `handleAck`. -/
def handleAck (s : TransportLayer) (remote : IndividualAddress) (seqNum : UInt8) :
    TransportLayer :=
  match s.connectionTable.findConnection remote with
  | none => s
  | some e =>
      let s := if awaits e seqNum then
          (s.withTable (s.connectionTable.resetRetransmitState e.index).2).updateEntry remote
            (fun c => { c with sequenceNumber := (c.sequenceNumber + 1) &&& 0x0F })
        else s
      s.touch e.index

/-- Transmission time that makes the retransmission timeout elapse at once; without a full timeout
since the start of the clock it is zero. -/
def nakTxTime (now timeoutMs : UInt32) : UInt32 := if timeoutMs ≤ now then now - timeoutMs else 0

/-- `handleNak`. -/
def handleNak (s : TransportLayer) (remote : IndividualAddress) (seqNum : UInt8) :
    TransportLayer :=
  match s.connectionTable.findConnection remote with
  | none => s
  | some e =>
      let s := if awaits e seqNum then
          s.updateEntry remote (fun c =>
            { c with
              pendingRetransmission := true
              lastTxTimeMs := nakTxTime s.timebaseMs c.retransmitTimeoutMs })
        else s
      s.touch e.index

/-! ## Numbered data -/

/-- The frame handed up for a numbered data TPDU. -/
def connectedFrame (own remote : IndividualAddress) (seqNum : UInt8)
    (tpdu : FixedVector UInt8 maxFrameSize) : TDataFrame where
  service := .connected
  source := remote
  destination := ⟨own.raw⟩
  destinationType := .individual
  sequenceNumber := seqNum
  tpdu := tpdu
  securityTpci6 := tpdu.data.headD 0 >>> 2

/-- Immediate repetition of the pending TPDU when the peer repeats a frame: the timeout is zeroed
for the call and set back after it. -/
def repeatAtOnce (s : TransportLayer) (remote : IndividualAddress) : TransportLayer :=
  match s.connectionTable.findConnection remote with
  | none => s
  | some e =>
      if e.pendingRetransmission ∧ e.pendingData.data ≠ [] ∧ e.retransmitCount < e.maxRetries then
        ((s.updateEntry remote (fun c => { c with retransmitTimeoutMs := 0 })).processRetransmissions
          s.timebaseMs).updateEntry remote (fun c => { c with retransmitTimeoutMs := ackTimeoutMs })
      else s

/-- `handleNumberedData`. -/
def handleNumberedData (s : TransportLayer) (remote : IndividualAddress) (seqNum : UInt8)
    (tpdu : FixedVector UInt8 maxFrameSize) (priority : Priority) : TransportLayer :=
  match s.connectionTable.findConnection remote with
  | none => s
  | some e =>
      let seqNum := seqNum &&& 0x0F
      let s := s.updateEntry remote (fun c => { c with priority := priority })
      match s.connectionTable.isDuplicate e.index seqNum with
      | (.error _, _) => s
      | (.ok true, t) =>
          let s := ((s.withTable t).sendAck remote seqNum priority).2
          (s.touch e.index).repeatAtOnce remote
      | (.ok false, t) =>
          let s := s.withTable t
          if seqNum ≠ e.expectedRxSeq &&& 0x0F then
            (s.sendNak remote (e.expectedRxSeq &&& 0x0F) priority).2.touch e.index
          else
            let s := (s.sendAck remote seqNum priority).2.touch e.index
            let s := s.updateEntry remote
              (fun c => { c with expectedRxSeq := (c.expectedRxSeq + 1) &&& 0x0F })
            s.transformAndDeliver (connectedFrame s.ownAddress remote seqNum tpdu)

/-! ## Dispatch -/

/-- Control field of a received TPDU. -/
def receivedTpci (tpdu : List UInt8) : TPCIField :=
  (unpackTpduHeader (tpdu.getD 0 0) (tpdu.getD 1 0)).tpci

/-- The clock never shows zero while frames are handled. -/
def startClock (s : TransportLayer) : TransportLayer :=
  if s.timebaseMs = 0 then s.withTime 1 else s

/-- `T_Connect`: an answer to our own request, or a request of the peer. -/
def handleTConnect (s : TransportLayer) (frame : LDataFrame) : TransportLayer :=
  match s.connectionTable.findConnection frame.source with
  | some e =>
      if e.stateMachine.state = .connecting then s.handleConnectResponse frame.source
      else s.handleConnectRequest frame.source frame.priority frame.repeated
  | none => s.handleConnectRequest frame.source frame.priority frame.repeated

/-- `T_Disconnect`: an answer to our own request, or a request of the peer. -/
def handleTDisconnect (s : TransportLayer) (frame : LDataFrame) : TransportLayer :=
  match s.connectionTable.findConnection frame.source with
  | some e =>
      if e.stateMachine.state = .disconnecting then s.handleDisconnectResponse frame.source
      else s.handleDisconnectRequest frame.source
  | none => s

/-- A frame that is no transport control goes to the upper layer as it came. -/
def handleConnectionless (s : TransportLayer) (frame : NDataFrame) : TransportLayer :=
  s.transformAndDeliver
    { convertFromNetwork frame with securityTpci6 := frame.dlFrame.tpdu.data.getD 0 0 >>> 2 }

/-- `handleNetworkRx`. -/
def handleNetworkRx (s : TransportLayer) (frame : NDataFrame) : TransportLayer :=
  if !s.initialized then s
  else if frame.dlFrame.tpdu.data = [] then s
  else
    let tpci := receivedTpci frame.dlFrame.tpdu.data
    let s := s.startClock
    match tpci.type with
    | .unnumberedControl =>
        if tpci.isControl .connect then s.handleTConnect frame.dlFrame
        else if tpci.isControl .disconnect then s.handleTDisconnect frame.dlFrame
        else s.handleConnectionless frame
    | .numberedControl =>
        if tpci.isAck then s.handleAck frame.dlFrame.source tpci.seqNum
        else if tpci.isNak then s.handleNak frame.dlFrame.source tpci.seqNum
        else s.handleConnectionless frame
    | .numberedData =>
        s.handleNumberedData frame.dlFrame.source tpci.seqNum frame.dlFrame.tpdu
          frame.dlFrame.priority
    | .unnumberedData => s.handleConnectionless frame

/-! ## Polled receive -/

/-- Outcome of starting a control response: wait for it, or end with the mapped error. -/
def awaitResponse (r : Result Unit × TransportLayer) : TransportLayer :=
  match r with
  | (.ok (), s) => { s with receiveOperation.waitingResponse := true }
  | (.error e, s) => { s with receiveOperation.terminalState := mapTxErrorToProgressState e }

/-- `beginHandleNumberedData`. -/
def beginHandleNumberedData (s : TransportLayer) (remote : IndividualAddress) (seqNum : UInt8)
    (tpdu : FixedVector UInt8 maxFrameSize) (priority : Priority) : TransportLayer :=
  match s.connectionTable.findConnection remote with
  | none => { s with receiveOperation.terminalState := .success }
  | some e =>
      let seqNum := seqNum &&& 0x0F
      let s := (s.updateEntry remote (fun c => { c with priority := priority })).touch e.index
      let s := { s with receiveOperation.connectionIndex := e.index }
      match s.connectionTable.isDuplicate e.index seqNum with
      | (.error _, _) => { s with receiveOperation.terminalState := .transmissionFailed }
      | (.ok true, t) =>
          awaitResponse
            ((s.withTable t).beginControlResponse remote (.ack seqNum) priority)
      | (.ok false, t) =>
          let s := s.withTable t
          if seqNum ≠ e.expectedRxSeq &&& 0x0F then
            awaitResponse
              (s.beginControlResponse remote (.nak (e.expectedRxSeq &&& 0x0F)) priority)
          else
            let s :=
              { s with
                receiveOperation.deliverFrame := true
                receiveOperation.advanceExpectedSequence := true
                receiveOperation.receivedFrame := connectedFrame s.ownAddress remote seqNum tpdu }
            awaitResponse (s.beginControlResponse remote (.ack seqNum) priority)

/-- `beginHandleNetworkRx`. -/
def beginHandleNetworkRx (s : TransportLayer) (frame : NDataFrame) :
    Result Unit × TransportLayer :=
  if !s.initialized then (.error .notInitialized, s)
  else if s.receiveOperation.active then (.error .busy, s)
  else
    let s := { s with receiveOperation := { active := true, terminalState := .success } }
    if frame.dlFrame.tpdu.data = [] then (.ok (), s)
    else
      let tpci := receivedTpci frame.dlFrame.tpdu.data
      let s := s.startClock
      if tpci.type = .numberedData then
        (.ok (), s.beginHandleNumberedData frame.dlFrame.source tpci.seqNum frame.dlFrame.tpdu
          frame.dlFrame.priority)
      else (.ok (), s.handleNetworkRx frame)

/-- `finalizeReceiveOperation`. -/
def finalizeReceiveOperation (s : TransportLayer) : TransportLayer :=
  if !s.receiveOperation.active then s
  else
    let op := s.receiveOperation
    let s := if op.advanceExpectedSequence then
        s.updateConnection op.connectionIndex
          (fun c => { c with expectedRxSeq := (c.expectedRxSeq + 1) &&& 0x0F })
      else s
    let s := if op.deliverFrame then s.transformAndDeliver op.receivedFrame else s
    { s with receiveOperation := {} }

/-- `pollHandleNetworkRx`. -/
def pollHandleNetworkRx (s : TransportLayer) :
    Result OperationProgressState × TransportLayer :=
  if !s.initialized then (.error .notInitialized, s)
  else if !s.receiveOperation.active then (.error .operationNotReady, s)
  else if s.receiveOperation.waitingResponse then
    match s.networkPoll with
    | (.ok .pending, s) => (.ok .pending, s)
    | (.ok p, s) => (.ok p, s.finalizeReceiveOperation)
    | (.error e, s) => (.ok (mapTxErrorToProgressState e), s.finalizeReceiveOperation)
  else (.ok s.receiveOperation.terminalState, s.finalizeReceiveOperation)

end TransportLayer

end KnxStack.Transport
