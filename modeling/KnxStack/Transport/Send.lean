import KnxStack.Transport.Layer

/-!
# Transport layer: sending

The functions of `transport/transport_layer_send.cpp`: sending of T_Data frames, opening and
closing of connections, connected data, and the maintenance call that repeats unacknowledged data
and removes idle connections. Each exists in a synchronous form and as a `begin`/`poll` pair.
-/

set_option autoImplicit false

namespace KnxStack.Transport

open KnxStack.Lib KnxStack.Protocol KnxStack.Datalink

namespace TransportLayer

/-! ## T_Data -/

/-- The open connection that a frame is put on: only frames marked `connected`, to an individual
address, with a TPDU. -/
def connectionFor (s : TransportLayer) (frame : TDataFrame) : Option ConnectionEntry :=
  if frame.service = .connected ∧ frame.destinationType = .individual ∧ frame.tpdu.data ≠ [] then
    match s.connectionTable.findConnection ⟨frame.destination.raw⟩ with
    | some e => if e.stateMachine.state = .connected then some e else none
    | none => none
  else none

/-- The six TPCI bits of a numbered data frame. -/
def numberedTpci6 (seqNum : UInt8) : UInt8 :=
  (TPCIField.create .numberedData (seqNum &&& 0x0F)).raw >>> 2

/-- Network frame with the contents of a T_Data frame. -/
def toNetworkFrame (work : TDataFrame) : NDataFrame where
  dlFrame :=
    { source := work.source
      destination := work.destination
      destinationType := work.destinationType
      tpdu := work.tpdu
      standardFrame := work.standardFrame
      repeated := work.repeated
      priority := work.priority
      ackRequested := work.ackRequested
      confirmation := work.confirmation
      hopCount := work.hopCount }

/-- First two octets of a TPDU; a missing second octet reads as zero. -/
def tpduHeaderOf (tpdu : List UInt8) : TpduHeader := unpackTpduHeader (tpdu.getD 0 0) (tpdu.getD 1 0)

/-- Payload of a TPDU: what follows the two header octets. -/
def tpduPayloadOf (tpdu : FixedVector UInt8 maxFrameSize) : FixedVector UInt8 maxApduLength :=
  ⟨tpdu.data.drop 2, by
    have h := tpdu.size_le
    simp only [List.length_drop]
    unfold maxFrameSize at h
    unfold maxApduLength
    omega⟩

/-- An entry that has just sent a TPDU and awaits its acknowledgement. -/
def withPending (e : ConnectionEntry) (seqNum : UInt8) (apciRaw : UInt16)
    (payload : FixedVector UInt8 maxApduLength) (priority : Priority) (now : UInt32) :
    ConnectionEntry :=
  { e with
    pendingSeq := seqNum
    pendingRetransmission := true
    pendingApciRaw := apciRaw
    pendingPriority := priority
    pendingData := payload
    retransmitCount := 0
    lastTxTimeMs := now
    retransmitTimeoutMs := ackTimeoutMs }

/-- `buildNetworkTxFrame`: a frame for an open connection is rewritten to numbered data and becomes
the connection's pending TPDU. -/
def buildNetworkTxFrame (s : TransportLayer) (frame : TDataFrame) :
    Result NDataFrame × TransportLayer :=
  let connection := s.connectionFor frame
  let work := match connection with
    | some e => { frame with securityTpci6 := numberedTpci6 e.sequenceNumber }
    | none => frame
  match s.txHook.apply work with
  | (.error e, h) => (.error e, { s with txHook := h })
  | (.ok work, h) =>
      let s := { s with txHook := h }
      match connection with
      | none => (.ok (toNetworkFrame work), s)
      | some e =>
          if work.tpdu.data = [] then (.ok (toNetworkFrame work), s)
          else
            let seqNum := e.sequenceNumber &&& 0x0F
            let apci := (tpduHeaderOf work.tpdu.data).apci
            let payload := tpduPayloadOf work.tpdu
            let tpdu := buildTpduInPlace (.create .numberedData seqNum) apci payload.data
              (tpduLengthFromTpci_le _ payload.size_le)
            (.ok ⟨{ (toNetworkFrame work).dlFrame with tpdu := tpdu }⟩,
              s.updateEntry e.remoteAddress
                (fun c => withPending c seqNum apci.raw payload work.priority s.timebaseMs))

/-- `sendFrame`. -/
def sendFrame (s : TransportLayer) (frame : TDataFrame) : Result Unit × TransportLayer :=
  if !s.initialized then (.error .notInitialized, s)
  else
    match s.buildNetworkTxFrame frame with
    | (.error e, s) => (.error e, s)
    | (.ok nFrame, s) => s.networkSend nFrame

/-- `beginTransmit`. -/
def beginTransmit (s : TransportLayer) (frame : TDataFrame) : Result Unit × TransportLayer :=
  if !s.initialized then (.error .notInitialized, s)
  else if s.sendActive then (.error .busy, s)
  else
    match s.buildNetworkTxFrame frame with
    | (.error e, s) => (.error e, s)
    | (.ok nFrame, s) =>
        match s.networkBegin nFrame with
        | (.error e, s) => (.error e, s)
        | (.ok (), s) => (.ok (), { s with sendActive := true })

/-- `pollTransmit`. -/
def pollTransmit (s : TransportLayer) : Result OperationProgressState × TransportLayer :=
  if !s.initialized then (.error .notInitialized, s)
  else if !s.sendActive then (.error .operationNotReady, s)
  else
    match s.networkPoll with
    | (.ok .pending, s) => (.ok .pending, s)
    | (r, s) => (r, { s with sendActive := false })

/-! ## Connections -/

/-- Parameters of a connection this device opens. -/
def clientParams (remote : IndividualAddress) : ConnectionParams where
  remoteAddress := remote
  timeoutMs := connectionTimeoutMs
  retransmitTimeoutMs := ackTimeoutMs
  maxRetries := connectionMaxRepetitions

/-- Create an entry and note it in the journal. -/
def createEntry (s : TransportLayer) (remote : IndividualAddress) (params : ConnectionParams) :
    ConnectionIndex × TransportLayer :=
  let created := s.connectionTable.createConnection remote params
  (created.1,
    (s.withTable created.2).note (if created.1.isValid then [.created remote] else []))

/-- Remove an entry by index and note it in the journal. -/
def removeEntry (s : TransportLayer) (index : ConnectionIndex) : TransportLayer :=
  match s.connectionTable.getConnection index with
  | none => s
  | some e =>
      (s.withTable (s.connectionTable.removeConnection index).2).note [.removed e.remoteAddress]

/-- `connect`. -/
def connect (s : TransportLayer) (remote : IndividualAddress) :
    Result ConnectionIndex × TransportLayer :=
  if !s.initialized then (.error .notInitialized, s)
  else if (s.connectionTable.findConnection remote).isSome then (.error .alreadyInitialized, s)
  else
    match s.createEntry remote (clientParams remote) with
    | (index, s) =>
        if !index.isValid then (.error .resourceUnavailable, s)
        else
          match s.sendConnect remote with
          | (.error e, s) => (.error e, s.removeEntry index)
          | (.ok (), s) =>
              (.ok index, (s.updateConnection index (fun e =>
                { e with stateMachine := e.stateMachine.onEvent .connectRequest })).touch index)

/-- Frame of `beginConnect`; it keeps the default acknowledge request of a frame. -/
def beginConnectFrame (own remote : IndividualAddress) : NDataFrame where
  dlFrame :=
    { source := own
      destination := ⟨remote.raw⟩
      destinationType := .individual
      tpdu := buildTpduInPlace (.createControl .connect) ⟨0⟩ []
        (tpduLengthFromTpci_le _ (Nat.zero_le _))
      hopCount := 6
      priority := .system }

/-- `beginConnect`: the entry exists from here on, its activity time is set by `pollConnect`. -/
def beginConnect (s : TransportLayer) (remote : IndividualAddress) :
    Result ConnectionIndex × TransportLayer :=
  if !s.initialized then (.error .notInitialized, s)
  else if s.connectOperation.active then (.error .busy, s)
  else if (s.connectionTable.findConnection remote).isSome then (.error .alreadyInitialized, s)
  else
    match s.createEntry remote (clientParams remote) with
    | (index, s) =>
        if !index.isValid then (.error .resourceUnavailable, s)
        else
          match s.networkBegin (beginConnectFrame s.ownAddress remote) with
          | (.error e, s) => (.error e, s.removeEntry index)
          | (.ok (), s) => (.ok index, { s with connectOperation := ⟨true, true, index, remote⟩ })

/-- Undo of a connect operation whose frame did not go out. -/
def abandonConnect (s : TransportLayer) : TransportLayer :=
  let s' := if s.connectOperation.createdConnection ∧ s.connectOperation.connectionIndex.isValid
    then s.removeEntry s.connectOperation.connectionIndex else s
  { s' with connectOperation := {} }

/-- `pollConnect`. -/
def pollConnect (s : TransportLayer) : Result OperationProgressState × TransportLayer :=
  if !s.initialized then (.error .notInitialized, s)
  else if !s.connectOperation.active then (.error .operationNotReady, s)
  else
    match s.networkPoll with
    | (.ok .pending, s) => (.ok .pending, s)
    | (.ok .success, s) =>
        let index := s.connectOperation.connectionIndex
        (.ok .success,
          { (s.updateConnection index (fun e =>
              { e with stateMachine := e.stateMachine.onEvent .connectRequest })).touch index with
            connectOperation := {} })
    | (r, s) => (r, s.abandonConnect)

/-- `disconnect`. -/
def disconnect (s : TransportLayer) (index : ConnectionIndex) : Result Unit × TransportLayer :=
  if !s.initialized then (.error .notInitialized, s)
  else
    match s.connectionTable.getConnection index with
    | none => (.error .invalidParameter, s)
    | some e =>
        match s.sendDisconnect e.remoteAddress e.priority with
        | (.error err, s) => (.error err, s)
        | (.ok (), s) =>
            (.ok (), (s.updateConnection index (fun e =>
              { e with stateMachine := e.stateMachine.onEvent .disconnectRequest })).touch index)

/-! ## Connected data -/

/-- Checks that `sendConnectedData` and `beginSendConnectedData` share: the entry to send on. -/
def connectedDataEntry (s : TransportLayer) (index : ConnectionIndex) : Result ConnectionEntry :=
  match s.connectionTable.getConnection index with
  | none => .error .invalidParameter
  | some e =>
      if !e.stateMachine.isConnected then .error .operationNotReady
      else if e.pendingRetransmission ∧ e.pendingData.data ≠ [] then .error .resourceUnavailable
      else .ok e

/-- `sendConnectedData`. -/
def sendConnectedData (s : TransportLayer) (index : ConnectionIndex) (data : List UInt8) :
    Result Unit × TransportLayer :=
  if !s.initialized then (.error .notInitialized, s)
  else if h : data.length ≤ maxApduLength then
    match s.connectedDataEntry index with
    | .error e => (.error e, s)
    | .ok e =>
        let seqNum := e.sequenceNumber &&& 0x0F
        let s := s.updateConnection index
          (fun c => withPending c seqNum 0 ⟨data, h⟩ e.priority s.timebaseMs)
        match s.networkSend
            (numberedDataFrame s.ownAddress e.remoteAddress seqNum 0 ⟨data, h⟩ e.priority) with
        | (.error err, s) => (.error err, s)
        | (.ok (), s) =>
            (.ok (), (s.updateConnection index
              (fun c => { c with sequenceNumber := (seqNum + 1) &&& 0x0F })).touch index)
  else (.error .invalidParameter, s)

/-- `beginSendConnectedData`: the entry changes when the transmission has succeeded. -/
def beginSendConnectedData (s : TransportLayer) (index : ConnectionIndex) (data : List UInt8) :
    Result Unit × TransportLayer :=
  if !s.initialized then (.error .notInitialized, s)
  else if h : data.length ≤ maxApduLength then
    if s.connectedSendOperation.active then (.error .busy, s)
    else
      match s.connectedDataEntry index with
      | .error e => (.error e, s)
      | .ok e =>
          let seqNum := e.sequenceNumber &&& 0x0F
          match s.networkBegin
              (numberedDataFrame s.ownAddress e.remoteAddress seqNum 0 ⟨data, h⟩ e.priority) with
          | (.error err, s) => (.error err, s)
          | (.ok (), s) =>
              (.ok (), { s with connectedSendOperation := ⟨true, index, seqNum, ⟨data, h⟩⟩ })
  else (.error .invalidParameter, s)

/-- `pollConnectedDataSend`. -/
def pollConnectedDataSend (s : TransportLayer) :
    Result OperationProgressState × TransportLayer :=
  if !s.initialized then (.error .notInitialized, s)
  else if !s.connectedSendOperation.active then (.error .operationNotReady, s)
  else
    match s.networkPoll with
    | (.ok .pending, s) => (.ok .pending, s)
    | (.ok .success, s) =>
        let op := s.connectedSendOperation
        match s.connectionTable.getConnection op.connectionIndex with
        | none => (.error .operationFailed, { s with connectedSendOperation := {} })
        | some e =>
            if !e.stateMachine.isConnected then
              (.error .operationFailed, { s with connectedSendOperation := {} })
            else
              (.ok .success,
                { (s.updateConnection op.connectionIndex (fun c =>
                    { withPending c op.sequenceNumber 0 op.payload c.priority s.timebaseMs with
                      sequenceNumber := (op.sequenceNumber + 1) &&& 0x0F })).touch
                    op.connectionIndex with
                  connectedSendOperation := {} })
    | (r, s) => (r, { s with connectedSendOperation := {} })

/-! ## Retransmissions and timeouts -/

/-- Remove the connections that are idle at the given time. -/
def removeIdle (s : TransportLayer) (currentTimeMs : UInt32) : TransportLayer :=
  (s.withTable (s.connectionTable.processTimeouts currentTimeMs connectionTimeoutMs).2).note
    ((s.connectionTable.connections.filter
      (ConnectionTable.reachedTimeout currentTimeMs connectionTimeoutMs)).map
        (fun e => .removed e.remoteAddress))

/-- The repetition of an entry's pending TPDU. -/
def repetitionFrame (s : TransportLayer) (e : ConnectionEntry) : NDataFrame :=
  numberedDataFrame s.ownAddress e.remoteAddress (e.pendingSeq &&& 0x0F) e.pendingApciRaw
    e.pendingData e.pendingPriority

/-- Nothing to repeat: the pending flag is cleared or the saved payload is empty. -/
def nothingToRepeat (e : ConnectionEntry) : Bool :=
  e.pendingData.isEmpty || !e.pendingRetransmission

/-- Bookkeeping after a repetition went out at the given time. -/
def markRepeated (s : TransportLayer) (index : ConnectionIndex) (timeMs : UInt32) :
    TransportLayer :=
  let t := (s.connectionTable.markDataSent index).2
  let t := t.updateByIndex index (fun e => { e with lastTxTimeMs := timeMs })
  s.withTable (t.updateActivityTime index timeMs)

/-- Body of the loop of `processRetransmissions`: repeat the pending TPDU of one connection. -/
def repeatPending (currentTimeMs : UInt32) (s : TransportLayer) (index : ConnectionIndex) :
    TransportLayer :=
  match s.connectionTable.getConnection index with
  | none => s
  | some e =>
      if nothingToRepeat e then s
      else
        match s.networkSend (s.repetitionFrame e) with
        | (.error _, s) => s
        | (.ok (), s) => s.markRepeated index currentTimeMs

/-- `processRetransmissions`. -/
def processRetransmissions (s : TransportLayer) (currentTimeMs : UInt32) : TransportLayer :=
  if !s.initialized then s
  else
    let s := s.withTime currentTimeMs
    let due := s.connectionTable.processRetransmissions currentTimeMs
    let s := due.1.data.foldl (repeatPending currentTimeMs) (s.withTable due.2)
    s.removeIdle currentTimeMs

/-- `beginProcessRetransmissions`. -/
def beginProcessRetransmissions (s : TransportLayer) (currentTimeMs : UInt32) :
    Result Unit × TransportLayer :=
  if !s.initialized then (.error .notInitialized, s)
  else if s.retransmissionOperation.active then (.error .busy, s)
  else
    let due := s.connectionTable.processRetransmissions currentTimeMs
    (.ok (),
      { (s.withTime currentTimeMs).withTable due.2 with
        retransmissionOperation :=
          { active := true, currentTimeMs := currentTimeMs, pending := due.1.data } })

/-- Loop of `pollProcessRetransmissions`: start the next repetition, or finish with the timeouts. -/
def startNextRepetition (s : TransportLayer) :
    List ConnectionIndex → Result OperationProgressState × TransportLayer
  | [] =>
      (.ok .success,
        { s.removeIdle s.retransmissionOperation.currentTimeMs with retransmissionOperation := {} })
  | index :: rest =>
      match s.connectionTable.getConnection index with
      | none => startNextRepetition s rest
      | some e =>
          if nothingToRepeat e then startNextRepetition s rest
          else
            match s.networkBegin (s.repetitionFrame e) with
            | (.error err, s) =>
                (.ok (mapTxErrorToProgressState err), { s with retransmissionOperation := {} })
            | (.ok (), s) =>
                (.ok .pending,
                  { s with
                    retransmissionOperation :=
                      { s.retransmissionOperation with
                        pending := rest
                        sendingCurrent := true
                        currentConnection := index } })

/-- `pollProcessRetransmissions`. -/
def pollProcessRetransmissions (s : TransportLayer) :
    Result OperationProgressState × TransportLayer :=
  if !s.initialized then (.error .notInitialized, s)
  else if !s.retransmissionOperation.active then (.error .operationNotReady, s)
  else if s.retransmissionOperation.sendingCurrent then
    match s.networkPoll with
    | (.ok .pending, s) => (.ok .pending, s)
    | (.ok .success, s) =>
        let op := s.retransmissionOperation
        let s := s.markRepeated op.currentConnection op.currentTimeMs
        { s with
          retransmissionOperation :=
            { op with sendingCurrent := false, currentConnection := .invalid } }.startNextRepetition
          op.pending
    | (r, s) => (r, { s with retransmissionOperation := {} })
  else s.startNextRepetition s.retransmissionOperation.pending

end TransportLayer

end KnxStack.Transport
